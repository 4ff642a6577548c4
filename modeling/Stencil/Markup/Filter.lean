import Stencil.Fault
import Stencil.Markup.Pointer
import Stencil.Markup.Print
import Stencil.Unicode.Case

/-!
The filters of pages: functions of the value in front of them and of named
arguments.
-/

namespace Stencil.Markup.Filter

abbrev Args := List (String × Value)

def fail {α : Type} (text : String) : Except Fault α := .error (.message text)

def unfit {α : Type} (filter : String) (arg : Option String) (v : Value) (expected : String) :
    Except Fault α :=
  match arg with
  | none => fail ("Filter \x60" ++ filter ++ "\x60 was called on an incorrect value: got \x60" ++
      v.json ++ "\x60 but expected a " ++ expected)
  | some name => fail ("Filter \x60" ++ filter ++ "\x60 received an incorrect type for arg \x60" ++
      name ++ "\x60: got \x60" ++ v.json ++ "\x60 but expected a " ++ expected)

def textOf (filter : String) (arg : Option String) (v : Value) : Except Fault String :=
  match v with
  | .string s => .ok s
  | _ => unfit filter arg v "String"

def itemsOf (filter : String) (v : Value) : Except Fault (List Value) :=
  match v with
  | .array items => .ok items
  | _ => unfit filter none v "Vec<Value>"

def countOf (filter arg : String) (v : Value) : Except Fault Nat :=
  match v with
  | .number n =>
      match n.unsigned? with
      | some count => .ok count
      | none => unfit filter (some arg) v "usize"
  | _ => unfit filter (some arg) v "usize"

/-- A number cut off to a whole one that fits a signed word. -/
def positionOf (filter arg : String) (v : Value) : Except Fault Int :=
  match v with
  | .number n => .ok (Whole.clampSigned n.toReal.truncate)
  | _ => unfit filter (some arg) v "f64"

/-- A written line break or tab in an argument stands for the character. -/
def unescapeBreaks (s : String) : String :=
  replaceText (replaceText s "\\n" "\n") "\\t" "\t"

def mapText (filter : String) (change : String → String) (v : Value) : Except Fault Value := do
  return .string (change (← textOf filter none v))

def capitalize (s : String) : String :=
  match s.toList with
  | [] => ""
  | c :: rest => String.ofList (Unicode.upperChar c ++ Unicode.lower rest)

def escapeChar : Char → List Char
  | '&' => "&amp;".toList
  | '<' => "&lt;".toList
  | '>' => "&gt;".toList
  | '"' => "&quot;".toList
  | '\'' => "&#x27;".toList
  | '/' => "&#x2F;".toList
  | c => [c]

def escape (s : String) : String := String.ofList (s.toList.flatMap escapeChar)

def length (v : Value) : Except Fault Value :=
  match v with
  | .array items => .ok (Value.ofNat items.length)
  | .object entries => .ok (Value.ofNat entries.length)
  | .string s => .ok (Value.ofNat s.length)
  | _ => fail
      "Filter \x60length\x60 was used on a value that isn't an array, an object, or a string."

def reverse (v : Value) : Except Fault Value :=
  match v with
  | .array items => .ok (.array items.reverse)
  | .string s => .ok (.string (String.ofList s.toList.reverse))
  | _ => fail ("Filter \x60reverse\x60 received an incorrect type for arg \x60value\x60: " ++
      "got \x60" ++ v.json ++ "\x60 but expected Array|String")

def nth (v : Value) (args : Args) : Except Fault Value := do
  let items ← itemsOf "nth" v
  if items.isEmpty then return .string ""
  match args.lookup "n" with
  | none => fail "The \x60nth\x60 filter has to have an \x60n\x60 argument"
  | some n => return items[← countOf "nth" "n" n]?.getD (.string "")

def join (v : Value) (args : Args) : Except Fault Value := do
  let items ← itemsOf "join" v
  let separator ← match args.lookup "sep" with
    | none => pure ""
    | some sep => (textOf "truncate" (some "sep") sep).map unescapeBreaks
  return .string (String.intercalate separator (items.map printed))

def argText (filter arg : String) (args : Args) (missing : String) : Except Fault String :=
  match args.lookup arg with
  | none => fail missing
  | some v => textOf filter (some arg) v

def expectedArg (filter arg : String) : String :=
  "Filter \x60" ++ filter ++ "\x60 expected an arg called \x60" ++ arg ++ "\x60"

def replace (v : Value) (args : Args) : Except Fault Value := do
  let s ← textOf "replace" none v
  let pattern ← argText "replace" "from" args (expectedArg "replace" "from")
  let replacement ← argText "replace" "to" args (expectedArg "replace" "to")
  return .string (replaceText s pattern replacement)

def split (v : Value) (args : Args) : Except Fault Value := do
  let s ← textOf "split" none v
  let pattern ← argText "split" "pat" args (expectedArg "split" "pat")
  return .array ((splitText s (unescapeBreaks pattern)).map .string)

/-- Positions below zero count from the end. -/
def slice (v : Value) (args : Args) : Except Fault Value := do
  let items ← itemsOf "slice" v
  if items.isEmpty then return .array items
  let length : Int := items.length
  let place (position : Int) : Int := if 0 ≤ position then position else length + position
  let position (arg : String) (otherwise : Int) : Except Fault Int :=
    match args.lookup arg with
    | none => .ok otherwise
    | some given => (positionOf "slice" arg given).map place
  let start ← position "start" 0
  let finish ← position "end" length
  if start < 0 then return .array []
  let finish := if finish < 0 ∨ length < finish then length else finish
  if finish ≤ start then return .array []
  return .array ((items.take finish.toNat).drop start.toNat)

def concat (v : Value) (args : Args) : Except Fault Value := do
  let items ← itemsOf "concat" v
  match args.lookup "with" with
  | none => fail "The \x60concat\x60 filter has to have a \x60with\x60 argument"
  | some (.array more) => return .array (items ++ more)
  | some other => return .array (items ++ [other])

def get (v : Value) (args : Args) : Except Fault Value := do
  let key ← argText "get" "key" args
    "The \x60get\x60 filter has to have an \x60key\x60 argument"
  match v with
  | .object entries =>
      match entries.lookup key, args.lookup "default" with
      | some found, _ => return found
      | none, some otherwise => return otherwise
      | none, none =>
          fail ("Filter \x60get\x60 tried to get key \x60" ++ key ++ "\x60 but it wasn't found")
  | _ => fail "Filter \x60get\x60 was used on a value that isn't an object"

def abs (v : Value) : Except Fault Value :=
  match v with
  | .number (.whole n) =>
      .ok (.number ((Number.ofInt? n.value.natAbs).getD (.whole n)))
  | .number (.real x) => .ok (.number (.real { x with negative := false }))
  | _ => fail "Filter \x60abs\x60 was used on a value that isn't a number."

def encode (v : Value) (args : Args) : Value :=
  match args.lookup "pretty" with
  | some (.bool true) => .string v.indentedJson
  | _ => .string v.json

inductive SortKey where
  | flag (b : Bool)
  | size (x : Binary64)
  | word (s : String)
  | count (n : Nat)

def SortKey.atMost : SortKey → SortKey → Bool
  | .flag a, .flag b => !a || b
  | .size a, .size b => a.atMost b
  | .word a, .word b => a ≤ b
  | .count a, .count b => a ≤ b
  | _, _ => true

/-- The sort key of a value beside a first one, whose type settles the order. -/
def sortKey (first v : Value) : Except Fault SortKey :=
  let expected (kind : String) : Except Fault SortKey :=
    fail ("expected " ++ kind ++ " got " ++ v.json)
  match first with
  | .null => fail "Null is not a sortable value"
  | .object _ => fail "Object is not a sortable value"
  | .bool _ => match v with
      | .bool b => .ok (.flag b)
      | _ => expected "bool"
  | .number _ => match v with
      | .number n => .ok (.size n.toReal)
      | _ => expected "number"
  | .string _ => match v with
      | .string s => .ok (.word s)
      | _ => expected "string"
  | .array _ => match v with
      | .array items => .ok (.count items.length)
      | _ => expected "array"

def sort (v : Value) (args : Args) : Except Fault Value := do
  let items ← itemsOf "sort" v
  match items with
  | [] => return .array []
  | head :: _ =>
      let field ← match args.lookup "attribute" with
        | none => pure ""
        | some given => textOf "sort" (some "attribute") given
      let part (item : Value) : Except Fault Value :=
        if field.isEmpty then .ok item
        else match point item field with
          | some found => .ok found
          | none => fail ("attribute '" ++ field ++ "' does not reference a field")
      let first ← part head
      let keyed ← items.mapM fun item => do
        return (← sortKey first (← part item), item)
      return .array ((keyed.mergeSort fun a b => a.1.atMost b.1).map Prod.snd)

/-- The filters that are modelled. Pages also know `trim_start`, `trim_end`,
`trim_start_matches`, `trim_end_matches`, `truncate`, `wordcount`, `title`, `linebreaksbr`,
`indent`, `striptags`, `spaceless`, `urlencode`, `urlencode_strict`, `escape_xml`, `slugify`,
`addslashes`, `int`, `float`, `unique`, `group_by`, `filter`, `map`, `pluralize`, `round`,
`filesizeformat`, `date` and `as_str`; those are left out, and count here as not found.
`safe` and `default` belong to evaluation. -/
def find? (name : String) : Option (Value → Args → Except Fault Value) :=
  match name with
  | "upper" => some fun v _ => mapText "upper" upperText v
  | "lower" => some fun v _ => mapText "lower" lowerText v
  | "trim" => some fun v _ => mapText "trim" trimText v
  | "capitalize" => some fun v _ => mapText "capitalize" capitalize v
  | "escape" => some fun v _ => mapText "escape_html" escape v
  | "length" => some fun v _ => length v
  | "reverse" => some fun v _ => reverse v
  | "first" => some fun v _ => do return (← itemsOf "first" v).head?.getD (.string "")
  | "last" => some fun v _ => do return (← itemsOf "last" v).getLast?.getD (.string "")
  | "nth" => some nth
  | "join" => some join
  | "replace" => some replace
  | "split" => some split
  | "slice" => some slice
  | "concat" => some concat
  | "get" => some get
  | "abs" => some fun v _ => abs v
  | "json_encode" => some fun v args => .ok (encode v args)
  | "sort" => some sort
  | _ => none

end Stencil.Markup.Filter
