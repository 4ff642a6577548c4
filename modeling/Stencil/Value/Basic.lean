import Stencil.Number

/-!
Data values: what contexts hold, functions take and return, and data files
contain. An object keeps its entries in the order in which their keys first
came.
-/

namespace Stencil

inductive Value where
  | null
  | bool (b : Bool)
  | number (n : Number)
  | string (s : String)
  | array (items : List Value)
  | object (entries : List (String × Value))

instance : Inhabited Value := ⟨.null⟩

abbrev Fields := List (String × Value)

namespace Fields

def get? (fields : Fields) (key : String) : Option Value := fields.lookup key

def keys (fields : Fields) : List String := fields.map Prod.fst

def hasKey (fields : Fields) (key : String) : Bool := (fields.get? key).isSome

/-- A key that is there keeps its place and takes the new value; another goes to
the end. -/
def insert : Fields → String → Value → Fields
  | [], key, value => [(key, value)]
  | (k, v) :: rest, key, value =>
      if k = key then (k, value) :: rest else (k, v) :: insert rest key value

def ofList (entries : List (String × Value)) : Fields :=
  entries.foldl (fun fields entry => insert fields entry.1 entry.2) []

def overlay (base top : Fields) : Fields :=
  top.foldl (fun fields entry => insert fields entry.1 entry.2) base

end Fields

/-- Places an entry before the first with a greater key, or over one with the
same key. -/
def insertSorted {α : Type} (key : String) (value : α) :
    List (String × α) → List (String × α)
  | [] => [(key, value)]
  | (k, v) :: rest =>
      if key < k then (key, value) :: (k, v) :: rest
      else if key = k then (key, value) :: rest
      else (k, v) :: insertSorted key value rest

/-- The entries in the order of their keys by code points; a repeated key takes
its last value. -/
def sortByKey {α : Type} (entries : List (String × α)) : List (String × α) :=
  entries.foldl (fun sorted entry => insertSorted entry.1 entry.2 sorted) []

namespace Value

mutual

def decEq : (v w : Value) → Decidable (v = w)
  | .null, .null => isTrue rfl
  | .bool a, .bool b =>
      if same : a = b then isTrue (by rw [same]) else isFalse (by simp [same])
  | .number a, .number b =>
      if same : a = b then isTrue (by rw [same]) else isFalse (by simp [same])
  | .string a, .string b =>
      if same : a = b then isTrue (by rw [same]) else isFalse (by simp [same])
  | .array a, .array b =>
      match decEqItems a b with
      | isTrue same => isTrue (by rw [same])
      | isFalse differ => isFalse (by simp [differ])
  | .object a, .object b =>
      match decEqEntries a b with
      | isTrue same => isTrue (by rw [same])
      | isFalse differ => isFalse (by simp [differ])
  | .null, .bool _ | .null, .number _ | .null, .string _ | .null, .array _ | .null, .object _ =>
      isFalse (by simp)
  | .bool _, .null | .bool _, .number _ | .bool _, .string _ | .bool _, .array _
  | .bool _, .object _ => isFalse (by simp)
  | .number _, .null | .number _, .bool _ | .number _, .string _ | .number _, .array _
  | .number _, .object _ => isFalse (by simp)
  | .string _, .null | .string _, .bool _ | .string _, .number _ | .string _, .array _
  | .string _, .object _ => isFalse (by simp)
  | .array _, .null | .array _, .bool _ | .array _, .number _ | .array _, .string _
  | .array _, .object _ => isFalse (by simp)
  | .object _, .null | .object _, .bool _ | .object _, .number _ | .object _, .string _
  | .object _, .array _ => isFalse (by simp)

def decEqItems : (v w : List Value) → Decidable (v = w)
  | [], [] => isTrue rfl
  | [], _ :: _ => isFalse (by simp)
  | _ :: _, [] => isFalse (by simp)
  | v :: vs, w :: ws =>
      match decEq v w, decEqItems vs ws with
      | isTrue head, isTrue tail => isTrue (by rw [head, tail])
      | isFalse head, _ => isFalse (by simp [head])
      | _, isFalse tail => isFalse (by simp [tail])

def decEqEntries : (v w : List (String × Value)) → Decidable (v = w)
  | [], [] => isTrue rfl
  | [], _ :: _ => isFalse (by simp)
  | _ :: _, [] => isFalse (by simp)
  | (k, v) :: vs, (l, w) :: ws =>
      if key : k = l then
        match decEq v w, decEqEntries vs ws with
        | isTrue head, isTrue tail => isTrue (by rw [key, head, tail])
        | isFalse head, _ => isFalse (by simp [head])
        | _, isFalse tail => isFalse (by simp [tail])
      else isFalse (by simp [key])

end

instance : DecidableEq Value := decEq

mutual

/-- Equality of data: objects are compared by key, in whatever order. -/
def alike : Value → Value → Bool
  | .null, .null => true
  | .bool a, .bool b => a == b
  | .number a, .number b => a.alike b
  | .string a, .string b => a == b
  | .array a, .array b => alikeItems a b
  | .object a, .object b => a.length == b.length && alikeEntries a b
  | _, _ => false

def alikeItems : List Value → List Value → Bool
  | [], [] => true
  | v :: vs, w :: ws => alike v w && alikeItems vs ws
  | _, _ => false

def alikeEntries : List (String × Value) → List (String × Value) → Bool
  | [], _ => true
  | (k, v) :: rest, other =>
      (match other.lookup k with
        | some w => alike v w
        | none => false) && alikeEntries rest other

end

def describe : Value → String
  | .null => "null"
  | .bool _ => "a boolean"
  | .number _ => "a number"
  | .string _ => "a string"
  | .array _ => "an array"
  | .object _ => "an object"

def ofNat (n : Nat) : Value := .number (Number.ofNat n)

def string? : Value → Option String
  | .string s => some s
  | _ => none

end Value

end Stencil
