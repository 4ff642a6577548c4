import Stencil.Registry
import Stencil.Unicode.Case
import Stencil.Value.Text

/-!
The builtin functions. They are ordinary entries of a registry and do nothing
but compute; a failure names the function.
-/

namespace Stencil.Builtin

def argument (function : String) (args : List Value) (index : Nat) : Except Fault Value :=
  match args[index]? with
  | some value => .ok value
  | none => .error (.message (s!"Function '{function}' expects at least {index + 1} " ++
      s!"argument(s), got {args.length}"))

/-- The text of an argument that is no array and no object. -/
def scalar (function : String) (args : List Value) (index : Nat) : Except Fault String := do
  let value ← argument function args index
  match value with
  | .array _ | .object _ =>
      throw (.message (s!"Function '{function}' expects a scalar argument at position " ++
        s!"{index + 1}, got {value.describe}"))
  | _ => return value.text

def escapeChar : Char → List Char
  | '&' => "&amp;".toList
  | '<' => "&lt;".toList
  | '>' => "&gt;".toList
  | '"' => "&quot;".toList
  | '\'' => "&#x27;".toList
  | c => [c]

def escapeHtml (text : String) : String := String.ofList (text.toList.flatMap escapeChar)

def joinItems (items : List Value) (separator : String) : String :=
  String.intercalate separator (items.map Value.text)

def upper (args : List Value) : Except Fault Value := do
  return .string (upperText (← scalar "upper" args 0))

def lower (args : List Value) : Except Fault Value := do
  return .string (lowerText (← scalar "lower" args 0))

def trim (args : List Value) : Except Fault Value := do
  return .string (trimText (← scalar "trim" args 0))

def escape (args : List Value) : Except Fault Value := do
  return .string (escapeHtml (← scalar "escape_html" args 0))

def json (args : List Value) : Except Fault Value := do
  return .string (← argument "json" args 0).json

/-- Without a second argument the items are joined by nothing. -/
def join (args : List Value) : Except Fault Value := do
  let first ← argument "join" args 0
  match first with
  | .array items =>
      let separator ← if args.length < 2 then pure "" else scalar "join" args 1
      return .string (joinItems items separator)
  | other =>
      throw (.message s!"Function 'join' expects an array, got {other.describe}")

def length (args : List Value) : Except Fault Value := do
  match ← argument "length" args 0 with
  | .string s => return Value.ofNat s.length
  | .array items => return Value.ofNat items.length
  | .object entries => return Value.ofNat entries.length
  | other => throw (.message s!"Function 'length' cannot measure {other.describe}")

def concat (args : List Value) : Except Fault Value :=
  .ok (.string (String.join (args.map Value.text)))

def table : List (String × (List Value → Except Fault Value)) :=
  [("concat", concat), ("escape_html", escape), ("join", join), ("json", json),
   ("length", length), ("lower", lower), ("trim", trim), ("upper", upper)]

def names : List String := table.map Prod.fst

def register (registry : Registry) : Registry :=
  table.foldl (fun grown entry =>
    Registry.register grown entry.1 fun args => .ofExcept (entry.2 args)) registry

def registry : Registry := register Registry.empty

end Stencil.Builtin
