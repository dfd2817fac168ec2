import SatFrontend.Unicode.Age
import SatFrontend.Unicode.Binary
import SatFrontend.Unicode.Script

namespace SatFrontend.Unicode

-- The names of the general categories, by abbreviation.
def categoryNames : List (String × List String) := [
  ("C", ["Other"]), ("Cc", ["Control", "Cntrl"]), ("Cf", ["Format"]), ("Cn", ["Unassigned"]),
  ("Co", ["Private_Use"]), ("L", ["Letter"]), ("LC", ["Cased_Letter"]),
  ("Ll", ["Lowercase_Letter"]), ("Lm", ["Modifier_Letter"]), ("Lo", ["Other_Letter"]),
  ("Lt", ["Titlecase_Letter"]), ("Lu", ["Uppercase_Letter"]), ("M", ["Mark", "Combining_Mark"]),
  ("Mc", ["Spacing_Mark"]), ("Me", ["Enclosing_Mark"]), ("Mn", ["Nonspacing_Mark"]),
  ("N", ["Number"]), ("Nd", ["Decimal_Number", "Digit"]), ("Nl", ["Letter_Number"]),
  ("No", ["Other_Number"]), ("P", ["Punctuation", "Punct"]), ("Pc", ["Connector_Punctuation"]),
  ("Pd", ["Dash_Punctuation"]), ("Pe", ["Close_Punctuation"]), ("Pf", ["Final_Punctuation"]),
  ("Pi", ["Initial_Punctuation"]), ("Po", ["Other_Punctuation"]), ("Ps", ["Open_Punctuation"]),
  ("S", ["Symbol"]), ("Sc", ["Currency_Symbol"]), ("Sk", ["Modifier_Symbol"]),
  ("Sm", ["Math_Symbol"]), ("So", ["Other_Symbol"]), ("Z", ["Separator"]),
  ("Zl", ["Line_Separator"]), ("Zp", ["Paragraph_Separator"]), ("Zs", ["Space_Separator"])]

-- What counts in a name: its ASCII characters apart from blanks, hyphens and underscores, in
-- any case, and without a leading `is`. One abbreviation begins like that.
def loosely (cs : List Char) : List Char :=
  let plain (cs : List Char) : List Char :=
    (cs.filter (fun c => c.toNat < 0x80 && c != ' ' && c != '_' && c != '-')).map Char.toLower
  match cs with
  | a :: b :: rest =>
    if a.toLower = 'i' && b.toLower = 's' then
      if plain rest = ['c'] then ['i', 's', 'c'] else plain rest
    else plain cs
  | _ => plain cs

-- The entry that has a name, as its first name.
def find? (entries : List (String × List String)) (name : List Char) : Option String :=
  (entries.find? (fun entry => (entry.1 :: entry.2).any (loosely ·.toList == name))).map (·.1)

def categorySet? (name : List Char) : Option CharSet :=
  match String.ofList name with
  | "any" => some CharSet.empty.complement
  | "assigned" => some (category "Cn").complement
  | "ascii" => some ⟨[(0, 0x7F)]⟩
  | _ => (find? categoryNames name).map category

def scriptName? (name : List Char) : Option String := find? scriptNames name

-- The names of the properties, each with its short ones.
def propertyNames : List (String × List String) :=
  binaryProperties.map (fun name => (name, (binaryNames.lookup name).getD []))

-- The set that has a name of its own: that of a property, a category or a script. Some
-- abbreviations of categories are names of properties too, but not of those that are known.
def namedSet? (name : List Char) : Option CharSet :=
  let name := loosely name
  match find? propertyNames name with
  | some property => some (binary property)
  | none => (categorySet? name).orElse (fun _ => (scriptName? name).map script)

-- A version of the standard, as it is written in full.
def version? (value : List Char) : Option String :=
  (ageTable.find? (fun entry =>
    let name := entry.1.toList
    value == name || value == 'v' :: name.filter (· != '.'))).map (·.1)

-- The set of the characters for which a property has a value.
def valuedSet? (property value : List Char) : Option CharSet :=
  let value := loosely value
  match String.ofList (loosely property) with
  | "gc" | "generalcategory" => categorySet? value
  | "sc" | "script" => (scriptName? value).map script
  | "scx" | "scriptextensions" => (scriptName? value).map scriptExtension
  | "age" => (version? value).bind age?
  | _ => none

end SatFrontend.Unicode
