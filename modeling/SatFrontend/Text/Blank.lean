import SatFrontend.Text.Split

namespace SatFrontend.Text

-- Blank characters are those with the Unicode property White_Space.
def isBlank (c : Char) : Bool :=
  (0x09 ≤ c.val && c.val ≤ 0x0D) || c.val == 0x20 || c.val == 0x85 || c.val == 0xA0 ||
  c.val == 0x1680 || (0x2000 ≤ c.val && c.val ≤ 0x200A) || c.val == 0x2028 ||
  c.val == 0x2029 || c.val == 0x202F || c.val == 0x205F || c.val == 0x3000

-- Drop the blanks at the end of a text.
def trimEnd (cs : List Char) : List Char :=
  cs.reverse.dropWhile isBlank |>.reverse

-- Drop the blanks at both ends of a text.
def trim (cs : List Char) : List Char :=
  trimEnd (cs.dropWhile isBlank)

-- The words of a text are its longest runs of characters that are not blank.
def words (cs : List Char) : List (List Char) :=
  (splitWhere isBlank cs).filter (fun w => !w.isEmpty)

-- A carriage return that ends a line belongs to the line break.
def stripReturn (cs : List Char) : List Char :=
  if cs.getLast? = some '\r' then cs.dropLast else cs

-- The lines of a text. A line feed ends a line, so a text that ends with one has no
-- empty line after it.
def lines (cs : List Char) : List (List Char) :=
  let parts := splitWhere (· == '\n') cs
  let parts := if parts.getLast? = some [] then parts.dropLast else parts
  parts.map stripReturn

end SatFrontend.Text
