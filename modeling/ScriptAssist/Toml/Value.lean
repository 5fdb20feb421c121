import ScriptAssist.Text.Basic

/-!
# TOML values

Numbers, truth values, dates and times keep their written form: no option of a project has such a
value.
-/

namespace ScriptAssist.Toml

inductive Value
  | text (s : Text)
  | scalar (written : Text)
  | array (items : List Value)
  | table (entries : List (Text × Value))
  deriving BEq, Repr, Inhabited

abbrev Table := List (Text × Value)

abbrev KeyPath := List Text

namespace Table

def replace (key : Text) (value : Value) (table : Table) : Table :=
  table.map fun entry => if entry.1 = key then (key, value) else entry

def add? (key : Text) (value : Value) (table : Table) : Option Table :=
  if (table.lookup key).isSome then none else some (table ++ [(key, value)])

/-- Changes the table at the end of a path, whose tables are made where they are missing. With
`throughArrays` the path goes on in the last table of an array. -/
def alter? (throughArrays : Bool) (change : Table → Option Table) : KeyPath → Table → Option Table
  | [], table => change table
  | key :: path, table =>
    match table.lookup key with
    | none => do
      let inside ← alter? throughArrays change path []
      pure (table ++ [(key, .table inside)])
    | some (.table inside) => do
      let inside ← alter? throughArrays change path inside
      pure (replace key (.table inside) table)
    | some (.array items) =>
      match throughArrays, items.getLast? with
      | true, some (.table inside) => do
        let inside ← alter? throughArrays change path inside
        pure (replace key (.array (items.dropLast ++ [.table inside])) table)
      | _, _ => none
    | some _ => none

def appendTable? (key : Text) (table : Table) : Option Table :=
  match table.lookup key with
  | none => some (table ++ [(key, .array [.table []])])
  | some (.array items) => some (replace key (.array (items ++ [.table []])) table)
  | some _ => none

end Table

end ScriptAssist.Toml
