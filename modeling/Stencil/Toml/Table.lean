import Stencil.Value.Basic

/-!
Tables while a TOML document is read. A table is made by its own header, on the
way to another header, or by a dotted key; how it was made settles what may
still be added to it.
-/

namespace Stencil.Toml

inductive TableKind where
  | headed | passed | dotted
  deriving DecidableEq

inductive Item where
  | value (v : Value)
  | table (kind : TableKind) (entries : List (String × Item))
  /-- An array of tables; the last one is open. -/
  | rows (rows : List (List (String × Item)))

abbrev Entries := List (String × Item)

namespace Entries

def get? (entries : Entries) (key : String) : Option Item := entries.lookup key

def set (entries : Entries) (key : String) (item : Item) : Entries :=
  if (entries.get? key).isSome then
    entries.map fun entry => if entry.1 == key then (key, item) else entry
  else entries ++ [(key, item)]

/-- Goes down a path, makes the tables that are missing, and changes the entries
at its end. Nothing goes through a finished value, and a dotted key goes through
no table that has a header. -/
def descend (dotted : Bool) (change : TableKind → Entries → Option Entries) :
    List String → TableKind → Entries → Option Entries
  | [], kind, entries => change kind entries
  | key :: path, _, entries => do
      match entries.get? key with
      | none =>
          let kind := if dotted then .dotted else .passed
          some (entries.set key (.table kind (← descend dotted change path kind [])))
      | some (.value _) => none
      | some (.table kind inner) =>
          if dotted ∧ kind = .headed then none
          else some (entries.set key (.table kind (← descend dotted change path kind inner)))
      | some (.rows rows) =>
          match rows.getLast? with
          | none => none
          | some row =>
              let row ← descend dotted change path .headed row
              some (entries.set key (.rows (rows.dropLast ++ [row])))

def addValue (path : List String) (key : String) (v : Value) (kind : TableKind)
    (entries : Entries) : Option Entries :=
  descend true (fun kind entries =>
    if !path.isEmpty ∧ kind ≠ .dotted then none
    else if (entries.get? key).isSome then none
    else some (entries.set key (.value v))) path kind entries

def openTable (path : List String) (key : String) (entries : Entries) : Option Entries :=
  descend false (fun _ entries =>
    match entries.get? key with
    | none => some (entries.set key (.table .headed []))
    | some (.table .passed inner) => some (entries.set key (.table .headed inner))
    | some _ => none) path .headed entries

def openRow (path : List String) (key : String) (entries : Entries) : Option Entries :=
  descend false (fun _ entries =>
    match entries.get? key with
    | none => some (entries.set key (.rows [[]]))
    | some (.rows rows) => some (entries.set key (.rows (rows ++ [[]])))
    | some _ => none) path .headed entries

end Entries

mutual

def Item.close : Item → Value
  | .value v => v
  | .table _ entries => .object (sortByKey (closeEntries entries))
  | .rows rows => .array (closeRows rows)

def closeEntries : List (String × Item) → List (String × Value)
  | [] => []
  | (key, item) :: rest => (key, item.close) :: closeEntries rest

def closeRows : List (List (String × Item)) → List Value
  | [] => []
  | row :: rest => .object (sortByKey (closeEntries row)) :: closeRows rest

end

end Stencil.Toml
