import Stencil.Dialog
import Stencil.Markup.Check
import Stencil.Markup.Filter
import Stencil.Markup.Scope
import Stencil.Unicode.Grapheme

/-!
Evaluation of pages. All a page can reach outside itself is asked for in its
dialog. A failure keeps the frames as they were, which places it. Recursion is
bounded by a number of levels; a page that needs more fails.
-/

namespace Stencil.Markup

abbrev Page := ExceptT Fault (StateT Scope Dialog)

/-- A page with its blocks and macros by name. -/
structure Book where
  nodes : List Node
  blocks : List (String × List Node)
  macros : List (String × List (String × Option Expr) × List Node)

namespace Page

variable {α : Type}

def ask (dialog : Dialog α) : Page α := ExceptT.lift (StateT.lift dialog)

def failure (text : String) : Page α := throw (.message text)

def attempt (act : Page α) : Page (Except Fault α) := ExceptT.lift act.run

def within (step : String) (act : Page α) : Page α := do
  match ← attempt act with
  | .ok result => return result
  | .error fault => throw (.stage step fault)

def push (frame : Frame) : Page Unit := modify fun scope => frame :: scope

def pop : Page Unit := modify List.tail

end Page

open Page

/-! Functions that pages call. -/

/-- Builtin functions that would reach outside; they always fail. -/
def withheld : List String := ["get_env", "now", "get_random"]

def countArg (arg label : String) (args : Fields) (otherwise : Option Nat) (missing : String) :
    Except Fault Nat :=
  match args.get? arg with
  | some v =>
      match v with
      | .number n =>
          match n.unsigned? with
          | some count => .ok count
          | none => refuse v
      | _ => refuse v
  | none =>
      match otherwise with
      | some count => .ok count
      | none => .error (.message missing)
where
  refuse (v : Value) : Except Fault Nat :=
    .error (.message ("Function \x60range\x60 received " ++ arg ++ "=" ++ v.json ++
      " but \x60" ++ label ++ "\x60 can only be a number"))

def range (args : Fields) : Except Fault Value := do
  let start ← countArg "start" "start" args (some 0) ""
  let step ← countArg "step_by" "step" args (some 1) ""
  let finish ← countArg "end" "end" args none
    "Function \x60range\x60 was called without a \x60end\x60 argument"
  if finish < start then
    throw (.message ("Function \x60range\x60 was called without a \x60start\x60 argument " ++
      "greater than the \x60end\x60 one"))
  let count := (finish - start + step - 1) / step
  return .array ((List.range count).map fun i => Value.ofNat (start + i * step))

def throwing (args : Fields) : Except Fault Value :=
  match args.get? "message" with
  | some (.string text) => .error (.message text)
  | some v => .error (.message ("Function \x60throw\x60 received message=" ++ v.json ++
      " but \x60message\x60 can only be a string"))
  | none =>
      .error (.message "Function \x60throw\x60 was called without a \x60message\x60 argument")

def readKey (args : Fields) : Page Value := do
  match args.get? "key" with
  | some (.string key) =>
      match ← ask (Dialog.askValue key (args.get? "default")) with
      | .ok v => return v
      | .error fault => throw (.stage ("\x60c\x60 could not resolve \"" ++ key ++ "\"") fault)
  | _ => failure "\x60c\x60 requires a string \x60key\x60 argument"

/-- Calling a function of the template. One argument need not be in an array. -/
def callOut (args : Fields) : Page Value := do
  match args.get? "name" with
  | some (.string name) =>
      let given := match args.get? "args" with
        | none => []
        | some (.array items) => items
        | some single => [single]
      match ← ask (Dialog.askCall name given) with
      | .ok v => return v
      | .error fault =>
          throw (.stage ("\x60f\x60 could not invoke \"" ++ name ++ "\"") (.forwarded fault))
  | _ => failure "\x60f\x60 requires a string \x60name\x60 argument"

def function? (name : String) : Option (Fields → Page Value) :=
  if name = "c" then some readKey
  else if name = "f" then some callOut
  else if name = "range" then some fun args => ofExcept (range args)
  else if name = "throw" then some fun args => ofExcept (throwing args)
  else if withheld.contains name then
    some fun _ => failure ("\x60" ++ name ++ "\x60 is not available to templates")
  else none

/-! Arithmetic. Signed words come first, then unsigned ones, then floats; absent
is a number that is none. -/

def bounded (sign : String) (signed : Bool) (left right result : Int) :
    Except Fault (Option Number) :=
  let least := if signed then Whole.least else 0
  let greatest := if signed then Whole.greatestSigned else Whole.greatest
  let fits := least ≤ result ∧ result ≤ greatest
  if fits then .ok (Number.ofInt? result)
  else .error (.message (toString left ++ " " ++ sign ++ " " ++ toString right ++
    " results in an out of bounds " ++ if signed then "i64" else "u64"))

def onWords (sign : String) (op : Int → Int → Int) (onReals : Binary64 → Binary64 → Option Binary64)
    (left right : Number) : Except Fault (Option Number) :=
  match left.signed?, right.signed? with
  | some l, some r => bounded sign true l r (op l r)
  | _, _ =>
      match left.unsigned?, right.unsigned? with
      | some l, some r => bounded sign false l r (op l r)
      | _, _ => .ok ((onReals left.toReal right.toReal).map .real)

/-- Division is of floats; a whole result becomes a whole number. -/
def divide (left right : Number) : Option Number :=
  match left.toReal.div? right.toReal with
  | none => none
  | some x =>
      if x.isWhole then Number.ofInt? (Whole.clampSigned x.truncate)
      else some (.real x)

def remainder (shown : String) (left right : Number) : Except Fault (Option Number) :=
  let words (l r : Int) : Except Fault (Option Number) :=
    if r = 0 then .error (.message ("Tried to do a modulo by zero: " ++ shown))
    else .ok (Number.ofInt? (l.tmod r))
  match left.signed?, right.signed? with
  | some l, some r => words l r
  | _, _ =>
      match left.unsigned?, right.unsigned? with
      | some l, some r => words l r
      | _, _ => .ok ((left.toReal.rem? right.toReal).map .real)

def compute (op : MathOp) (shown : String) (left right : Number) : Except Fault (Option Number) :=
  match op with
  | .add => onWords "+" (· + ·) Binary64.add? left right
  | .sub => onWords "-" (· - ·) Binary64.sub? left right
  | .mul => onWords "x" (· * ·) Binary64.mul? left right
  | .div => .ok (divide left right)
  | .modulo => remainder shown left right

def ordered (op : LogicOp) (left right : Number) : Bool :=
  let l := left.toReal
  let r := right.toReal
  match op with
  | .greater => r.less l
  | .atLeast => r.atMost l
  | .less => l.less r
  | _ => l.atMost r

/-- Equality of values. A number equals no other kind of value, and differs from
none either. -/
def same (op : LogicOp) (left right : Value) : Bool :=
  let settle (equal : Bool) : Bool := if op = .equal then equal else !equal
  match left, right with
  | .number l, .number r => settle (l.toReal.alike r.toReal)
  | .number _, _ | _, .number _ => false
  | _, _ => settle (left.alike right)

def isMember (item container : Value) : Except Fault Bool :=
  match container with
  | .array items => .ok (items.any fun other => other.alike item)
  | .string s =>
      match item with
      | .string part => .ok (containsText s part)
      | _ => .error (.message ("Tried to check if " ++ item.inspect ++
          " is in a string, but it isn't a string"))
  | .object entries =>
      match item with
      | .string key => .ok (entries.lookup key).isSome
      | _ => .error (.message ("Tried to check if " ++ item.inspect ++
          " is in a object, but it isn't a string"))
  | _ => .error (.message "The \x60in\x60 operator only supports strings, arrays and objects.")

def concatText (parts : List Term) : String :=
  String.intercalate " ~ " (parts.map fun part =>
    match part with
    | .text s => "'" ++ s ++ "'"
    | .path p => p
    | _ => "unknown")

def hasDefault (e : Expr) : Bool :=
  match e.filters with
  | filter :: _ => filter.name == "default"
  | [] => false

def rounds (container : String) (key : Option String) (v : Value) :
    Except Fault (List (String × Value)) :=
  let keyed : Fault := .message ("Tried to iterate using key value on variable \x60" ++
    container ++ "\x60, but it isn't an object/map")
  match v with
  | .array items =>
      if key.isSome then .error keyed else .ok (items.map fun item => ("", item))
  | .string s =>
      if key.isSome then .error keyed
      else .ok ((Unicode.clusters s.toList).map fun cluster =>
        ("", .string (String.ofList cluster)))
  | .object entries =>
      if key.isSome then .ok entries
      else .error (.message ("Tried to iterate using key value on variable \x60" ++ container ++
        "\x60, but it is missing a key"))
  | _ => .error (.message ("Tried to iterate on a container (\x60" ++ container ++
      "\x60) that has a unsupported type"))

def containerName (container : Expr) : Except Fault String :=
  match container.term with
  | .path p => .ok p
  | .call call => .ok call.name
  | .array _ => .ok "an array literal"
  | other => .error (.message ("Forloop containers have to be an ident or a function call " ++
      "(tried to iterate on '" ++ other.inspect ++ "')"))

def tooDeep {α : Type} : Page α := failure "Template is nested too deeply"

mutual

def evalExpr (book : Book) (levels : Nat) (e : Expr) : Page Value :=
  match levels with
  | 0 => tooDeep
  | levels + 1 => do
      let finish (v : Value) : Page Value := do
        let v ← e.filters.foldlM (fun v filter =>
          if filter.name == "safe" || filter.name == "default" then pure v
          else applyFilter book levels v filter) v
        if e.negated then return .bool !(isTruthy v) else return v
      match e.term with
      | .array items => finish (.array (← items.mapM (evalExpr book levels)))
      | .membership item container negated =>
          finish (.bool (← evalMembership book levels item container negated))
      | .text s => finish (.string s)
      | .concat parts =>
          finish (.string (String.join (← parts.mapM (concatPart book levels))))
      | .whole n => finish (.number ((Number.ofInt? n).getD (.real Binary64.zero)))
      | .real x => finish (.number (.real x))
      | .bool b => finish (.bool b)
      | .path p =>
          match (← get).lookup p with
          | .ok .null => if hasDefault e then finish (← evalDefault book levels e) else finish .null
          | .ok v => finish v
          | .error fault =>
              if hasDefault e then finish (← evalDefault book levels e)
              else if e.negated then return .bool true
              else throw fault
      | .call call => finish (← evalCall book levels call)
      | .macroCall space name args => finish (.string (← callMacro book levels space name args))
      | .test path negated name args =>
          finish (.bool (← evalTest book levels path negated name args))
      | .logic .. => finish (.bool (← evalBool book levels e))
      | .math .. =>
          match ← attempt (evalNumber book levels e.term) with
          | .ok (some n) => finish (.number n)
          | .ok none => finish (.string "NaN")
          | .error fault => failure fault.text

def evalDefault (book : Book) (levels : Nat) (e : Expr) : Page Value :=
  match levels with
  | 0 => tooDeep
  | levels + 1 =>
      match e.filters with
      | filter :: _ =>
          match filter.args.lookup "value" with
          | some value => evalExpr book levels value
          | none => failure "The \x60default\x60 filter requires a \x60value\x60 argument."
      | [] => tooDeep

def concatPart (book : Book) (levels : Nat) (part : Term) : Page String :=
  match levels with
  | 0 => tooDeep
  | levels + 1 => do
      let joined (v : Value) (source : String) : Page String :=
        match v with
        | .string s => pure s
        | .number n => pure n.text
        | _ => failure ("Tried to concat a value that is not a string or a number from " ++ source)
      match part with
      | .text s => return s
      | .whole n => return toString n
      | .real x => return pageFloat.text x
      | .path p => joined (← ofExcept ((← get).lookup p)) ("ident " ++ p)
      | .call call => joined (← evalCall book levels call) ("function call " ++ call.name)
      | _ => return ""

/-- Named arguments are evaluated in the order in which the page has them. The page engine
keeps them in a hash map and promises no order, so this one is a choice of the model. -/
def evalArgs (book : Book) (levels : Nat) (args : List (String × Expr)) : Page Fields :=
  match levels with
  | 0 => tooDeep
  | levels + 1 => args.mapM fun arg => do return (arg.1, ← evalExpr book levels arg.2)

def evalCall (book : Book) (levels : Nat) (call : Call) : Page Value :=
  match levels with
  | 0 => tooDeep
  | levels + 1 =>
      match function? call.name with
      | none => failure ("Function '" ++ call.name ++ "' not found")
      | some function =>
          within ("Function call '" ++ call.name ++ "' failed") do
            function (← evalArgs book levels call.args)

def applyFilter (book : Book) (levels : Nat) (v : Value) (filter : Call) : Page Value :=
  match levels with
  | 0 => tooDeep
  | levels + 1 =>
      match Filter.find? filter.name with
      | none => failure ("Filter '" ++ filter.name ++ "' not found")
      | some function =>
          within ("Filter call '" ++ filter.name ++ "' failed") do
            ofExcept (function v (← evalArgs book levels filter.args))

def evalTest (book : Book) (levels : Nat) (path : String) (negated : Bool) (name : String)
    (args : List Expr) : Page Bool :=
  match levels with
  | 0 => tooDeep
  | levels + 1 =>
      match Check.find? name with
      | none => failure ("Test '" ++ name ++ "' not found")
      | some check =>
          within ("Test call '" ++ name ++ "' failed") do
            let given ← args.mapM (evalExpr book levels)
            let found := match (← get).lookup path with
              | .ok v => some v
              | .error _ => none
            return (← ofExcept (check found given)) != negated

def evalMembership (book : Book) (levels : Nat) (item container : Expr) (negated : Bool) :
    Page Bool :=
  match levels with
  | 0 => tooDeep
  | levels + 1 => do
      let item ← evalExpr book levels item
      let container ← evalExpr book levels container
      return (← ofExcept (isMember item container)) != negated

/-- An expression as a condition. A variable that has no value is false. -/
def evalBool (book : Book) (levels : Nat) (e : Expr) : Page Bool :=
  match levels with
  | 0 => tooDeep
  | levels + 1 => do
      let finish (b : Bool) : Page Bool := pure (b != e.negated)
      match e.term with
      | .logic op left right =>
          match op with
          | .either =>
              if ← evalBool book levels left then finish true
              else finish (← evalBool book levels right)
          | .both =>
              if ← evalBool book levels left then finish (← evalBool book levels right)
              else finish false
          | .equal | .different => do
              let l ← evalExpr book levels left
              let r ← evalExpr book levels right
              match l, r with
              | .number _, .number _ => finish (same op l r)
              | .number _, _ | _, .number _ => return false
              | _, _ => finish (same op l r)
          | _ => do
              let l ← evalOperand book levels left
              let r ← evalOperand book levels right
              match l, r with
              | some l, some r => finish (ordered op l r)
              | _, _ => failure "Comparison to NaN"
      | .path _ =>
          let truthy := match ← attempt (evalExpr book levels e) with
            | .ok v => isTruthy v
            | .error _ => false
          finish (truthy != e.negated)
      | .math .. | .whole _ | .real _ =>
          match ← evalNumber book levels e.term with
          | some n => finish (isTruthy (.number n))
          | none => finish false
      | .membership item container negated =>
          finish (← evalMembership book levels item container negated)
      | .test path negated name args => finish (← evalTest book levels path negated name args)
      | .bool b => finish b
      | .text s => finish !s.isEmpty
      | .call call =>
          match ← evalCall book levels call with
          | .bool b => finish b
          | _ => failure ("Function \x60" ++ call.name ++
              "\x60 was used in a logic operation but is not returning a bool")
      | .concat _ => finish (isTruthy (← evalExpr book levels e))
      | .macroCall space name args =>
          finish !(← callMacro book levels space name args).isEmpty
      | .array _ => finish (isTruthy (← evalExpr book levels e))

def evalOperand (book : Book) (levels : Nat) (e : Expr) : Page (Option Number) :=
  match levels with
  | 0 => tooDeep
  | levels + 1 => do
      if e.filters.isEmpty then evalNumber book levels e.term
      else
        match ← evalExpr book levels e with
        | .number n => return some n
        | _ => failure "Tried to do math with an expression not resulting in a number"

def evalNumber (book : Book) (levels : Nat) (term : Term) : Page (Option Number) :=
  match levels with
  | 0 => tooDeep
  | levels + 1 => do
      match term with
      | .path p =>
          match ← ofExcept ((← get).lookup p) with
          | .number n => return some n
          | _ => failure ("Variable \x60" ++ p ++
              "\x60 was used in a math operation but is not a number")
      | .whole n => return Number.ofInt? n
      | .real x => return some (.real x)
      | .math op left right =>
          let l ← evalOperand book levels left
          let r ← evalOperand book levels right
          match l, r with
          | some l, some r => ofExcept (compute op (left.inspect ++ "/" ++ right.inspect) l r)
          | _, _ => return none
      | .text s => failure ("Tried to do math with a string: \x60" ++ s ++ "\x60")
      | .bool b => failure ("Tried to do math with a boolean: \x60" ++ toString b ++ "\x60")
      | .concat parts =>
          failure ("Tried to do math with a string concatenation: " ++ concatText parts)
      | .test _ _ name _ => failure ("Tried to do math with a test: " ++ name)
      | .call call =>
          match ← evalCall book levels call with
          | .number n => return some n
          | _ => failure ("Function \x60" ++ call.name ++
              "\x60 was used in a math operation but is not returning a number")
      | _ => failure "Tried to do math with an expression not resulting in a number"

def callMacro (book : Book) (levels : Nat) (space name : String) (args : List (String × Expr)) :
    Page String :=
  match levels with
  | 0 => tooDeep
  | levels + 1 => do
      if space != "self" || book.macros.isEmpty then
        failure ("Macro namespace \x60" ++ space ++ "\x60 was not found in template \x60" ++
          pageName ++ "\x60. Have you maybe forgotten to import it, or misspelled it?")
      else match book.macros.lookup name with
        | none => failure ("Macro \x60" ++ space ++ "::" ++ name ++
            "\x60 not found in template \x60" ++ pageName ++ "\x60")
        | some (params, body) =>
            let vars ← params.mapM fun param => do
              match args.lookup param.1, param.2 with
              | some given, _ => return (param.1, ← evalExpr book levels given)
              | none, some preset => return (param.1, ← evalExpr book levels preset)
              | none, none => failure ("Macro \x60" ++ name ++
                  "\x60 is missing the argument \x60" ++ param.1 ++ "\x60")
            push (Frame.plain (.macroBody space name) (Fields.ofList vars))
            let output ← renderNodes book levels body
            pop
            return output

def renderNodes (book : Book) (levels : Nat) (nodes : List Node) : Page String :=
  match levels with
  | 0 => tooDeep
  | levels + 1 => renderRow (renderNode book levels) nodes
where
  renderRow (render : Node → Page String) : List Node → Page String
    | [] => return ""
    | node :: rest => do
        let output ← render node
        if (← get).isStopped then return output
        return output ++ (← renderRow render rest)

def renderNode (book : Book) (levels : Nat) (node : Node) : Page String :=
  match levels with
  | 0 => tooDeep
  | levels + 1 => do
      match node with
      | .text s | .raw _ s _ => return s
      | .show _ e => return printed (← evalExpr book levels e)
      | .assign _ name e everywhere =>
          let v ← evalExpr book levels e
          modify fun scope => if everywhere then scope.assignOutside name v else scope.assign name v
          return ""
      | .section _ filter body _ =>
          let output ← renderNodes book levels body
          if filter.name == "safe" then return output
          else return printed (← applyFilter book levels (.string output) filter)
      | .branch cases otherwise _ => renderCases book levels cases otherwise
      | .loop _ key item container body otherwise _ =>
          renderLoop book levels key item container body otherwise
      | .leave _ =>
          if (← get).loop?.isNone then
            failure "Attempted \x60break\x60 while not in \x60for loop\x60"
          modify fun scope => scope.setLoop fun state => { state with ending := .leaving }
          return ""
      | .proceed _ =>
          if (← get).loop?.isNone then
            failure "Attempted \x60continue\x60 while not in \x60for loop\x60"
          modify fun scope => scope.setLoop fun state => { state with ending := .proceeding }
          return ""
      | .block _ name body _ => renderNodes book levels ((book.blocks.lookup name).getD body)
      | .superBlock => failure "Tried to use super() in the top level block"
      | .include _ names ignoreMissing =>
          if names.contains pageName then
            push (Frame.plain .included [])
            let output ← renderNodes book levels book.nodes
            pop
            return output
          else if ignoreMissing then return ""
          else failure ("Template '[" ++ String.intercalate ", " names ++ "]' not found")
      | .inherit _ name => failure ("Inheritance in included templates is currently not " ++
          "supported: extended \x60" ++ name ++ "\x60")
      | .comment _ | .define .. | .borrow .. => return ""

def renderCases (book : Book) (levels : Nat) (cases : List (Edges × Expr × List Node))
    (otherwise : Option (Edges × List Node)) : Page String :=
  match levels with
  | 0 => tooDeep
  | levels + 1 =>
      pick (evalBool book levels) (renderNodes book levels)
        (match otherwise with
          | some (_, body) => renderNodes book levels body
          | none => pure "") cases
where
  pick (test : Expr → Page Bool) (render : List Node → Page String) (otherwise : Page String) :
      List (Edges × Expr × List Node) → Page String
    | [] => otherwise
    | (_, e, body) :: rest => do
        if ← test e then render body else pick test render otherwise rest

def renderLoop (book : Book) (levels : Nat) (key : Option String) (item : String)
    (container : Expr) (body : List Node) (otherwise : Option (List Node)) : Page String :=
  match levels with
  | 0 => tooDeep
  | levels + 1 => do
      let name ← ofExcept (containerName container)
      let v ← evalExpr book levels container
      let steps ← ofExcept (rounds name key v)
      match steps, otherwise with
      | [], some body => renderNodes book levels body
      | [], none => return ""
      | first :: _, _ =>
          push ⟨.loop, [], some ⟨key, item, first.1, first.2, 0, steps.length, .going⟩⟩
          let output ← repeatRounds (renderNodes book levels body) 0 steps
          pop
          return output
where
  repeatRounds (render : Page String) (index : Nat) : List (String × Value) → Page String
    | [] => return ""
    | (key, item) :: rest => do
        modify fun scope => scope.nextRound index key item
        let output ← render
        match (← get).loop? with
        | some { ending := .leaving, .. } => return output
        | _ => return output ++ (← repeatRounds render (index + 1) rest)

end

def maxLevels : Nat := 10000

def renderPage (book : Book) : List Node → Page String
  | [] => return ""
  | node :: rest => do
      match ← attempt (renderNode book maxLevels node) with
      | .ok output => return output ++ (← renderPage book rest)
      | .error fault => throw (.stage (← get).placement fault)

end Stencil.Markup
