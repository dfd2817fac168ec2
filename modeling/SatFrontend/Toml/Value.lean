namespace SatFrontend.Toml

-- What settings consist of. The format has numbers, truth values and dates as well, but no
-- setting is one of these.
inductive Value where
  | text (s : String)
  | list (vs : List Value)
  -- the entries have different keys; a table that was begun by a dotted key can be
  -- continued by other dotted keys
  | table (dotted : Bool) (entries : List (String × Value))
deriving Repr

-- The entries of a table.
abbrev Table := List (String × Value)

namespace Table

-- Put a value at a dotted key, and make the tables on the way there. A key cannot be given
-- twice.
def insert (t : Table) : List String → Value → Option Table
  | [], _ => none
  | [k], v => if (t.lookup k).isSome then none else some (t ++ [(k, v)])
  | k :: ks, v =>
    match t.lookup k with
    | none => do
      let inner ← insert [] ks v
      some (t ++ [(k, .table true inner)])
    | some (.table true inner) => do
      let inner ← insert inner ks v
      some (t.map (fun entry => if entry.1 = k then (k, .table true inner) else entry))
    | some _ => none

end Table

namespace Value

def text? : Value → Option String
  | text s => some s
  | _ => none

def texts? : Value → Option (List String)
  | list vs => vs.mapM text?
  | _ => none

-- The fields of a record with these names. A table gives some of them by name and nothing
-- else, a list gives all of them in order.
def fields? (names : List String) : Value → Option (List (Option Value))
  | text _ => none
  | list vs => if vs.length = names.length then some (vs.map some) else none
  | table _ entries =>
    if entries.all (fun entry => names.contains entry.1) then some (names.map (fun name => entries.lookup name))
    else none

end Value

end SatFrontend.Toml
