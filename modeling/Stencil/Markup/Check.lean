import Stencil.Fault
import Stencil.Markup.Pointer

/-!
The tests of pages: questions about a variable, which may be undefined, with
arguments by position.
-/

namespace Stencil.Markup.Check

def fail {α : Type} (name text : String) : Except Fault α :=
  .error (.message ("Tester \x60" ++ name ++ "\x60 was called " ++ text))

def atMostArgs (name : String) (most : Nat) (args : List Value) : Except Fault Unit :=
  if args.length ≤ most then .ok ()
  else if most = 0 then fail name "with some args but this test doesn't take args"
  else fail name s!"with {args.length} args, the max number is {most}"

def defined (name : String) (v : Option Value) : Except Fault Value :=
  match v with
  | some value => .ok value
  | none => fail name "on an undefined variable"

def textOf (name part : String) (v : Option Value) : Except Fault String :=
  match v with
  | some (.string s) => .ok s
  | _ => fail name (part ++ " that isn't a string")

def alone (name : String) (v : Option Value) (args : List Value) : Except Fault Value := do
  atMostArgs name 0 args
  defined name v

def isOdd (v : Value) : Except Fault Bool :=
  match v with
  | .number n =>
      .ok (match n.toReal.rem? ((Binary64.ofInt? 2).getD Binary64.zero) with
        | some r => r.units != 0
        | none => true)
  | _ => fail "odd" "on a variable that isn't a number"

def divides (v : Value) (args : List Value) : Except Fault Bool :=
  match v with
  | .number n =>
      match args.head? with
      | some (.number d) =>
          match n.toReal.rem? d.toReal with
          | some r => .ok (r.units == 0)
          | none => .ok false
      | _ => fail "divisibleby" "with a parameter that isn't a number"
  | _ => fail "divisibleby" "on a variable that isn't a number"

def contains (v : Value) (args : List Value) : Except Fault Bool := do
  match v with
  | .string s =>
      return containsText s (← textOf "containing" "with a parameter" args.head?)
  | .array items =>
      match args.head? with
      | some wanted => return items.any fun item => item.alike wanted
      | none => return false
  | .object entries =>
      let key ← textOf "containing" "with a parameter" args.head?
      return (entries.lookup key).isSome
  | _ => throw (.message "Tester \x60containing\x60 can only be used on string, array or map")

def texts (name : String) (v : Option Value) (args : List Value) :
    Except Fault (String × String) := do
  atMostArgs name 1 args
  let value ← defined name v
  let s ← textOf name "on a variable" (some value)
  let part ← textOf name "with a parameter" args.head?
  return (s, part)

/-- The tests that are modelled: all that pages know but `matching`, which takes a regular
expression and counts here as not found. -/
def find? (name : String) : Option (Option Value → List Value → Except Fault Bool) :=
  match name with
  | "defined" => some fun v args => do
      atMostArgs "defined" 0 args
      return v.isSome
  | "undefined" => some fun v args => do
      atMostArgs "undefined" 0 args
      return v.isNone
  | "string" => some fun v args => do
      match ← alone "string" v args with
      | .string _ => return true
      | _ => return false
  | "number" => some fun v args => do
      match ← alone "number" v args with
      | .number _ => return true
      | _ => return false
  | "iterable" => some fun v args => do
      match ← alone "iterable" v args with
      | .array _ | .object _ => return true
      | _ => return false
  | "object" => some fun v args => do
      match ← alone "object" v args with
      | .object _ => return true
      | _ => return false
  | "odd" => some fun v args => do isOdd (← alone "odd" v args)
  | "even" => some fun v args => do return !(← isOdd (← alone "even" v args))
  | "divisibleby" => some fun v args => do
      atMostArgs "divisibleby" 1 args
      divides (← defined "divisibleby" v) args
  | "starting_with" => some fun v args => do
      let (s, part) ← texts "starting_with" v args
      return part.toList.isPrefixOf s.toList
  | "ending_with" => some fun v args => do
      let (s, part) ← texts "ending_with" v args
      return part.toList.isSuffixOf s.toList
  | "containing" => some fun v args => do
      atMostArgs "containing" 1 args
      contains (← defined "containing" v) args
  | _ => none

end Stencil.Markup.Check
