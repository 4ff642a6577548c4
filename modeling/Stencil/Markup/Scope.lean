import Stencil.Fault
import Stencil.Markup.Pointer
import Stencil.Markup.Syntax

/-!
The variables of a page being rendered. Frames lie on each other, the innermost
first: the page itself, loops, bodies of macros, and included pages. A look-up
goes outward and ends at the body of a macro or at the page.
-/

namespace Stencil.Markup

def pageName : String := "__tera_one_off"

inductive FrameKind where
  | page
  | loop
  | macroBody (space name : String)
  | included
  deriving DecidableEq

inductive Ending where
  | going | proceeding | leaving
  deriving DecidableEq

structure LoopState where
  keyName : Option String
  itemName : String
  key : String
  item : Value
  index : Nat
  count : Nat
  ending : Ending

structure Frame where
  kind : FrameKind
  vars : Fields
  loop : Option LoopState

/-- The frames, innermost first. -/
abbrev Scope := List Frame

namespace Frame

def plain (kind : FrameKind) (vars : Fields) : Frame := ⟨kind, vars, none⟩

def splitHead (key : String) : String × Option String :=
  let chars := key.toList
  let head := String.ofList (chars.takeWhile (· != '.'))
  match chars.dropWhile (· != '.') with
  | _ :: tail => (head, some (String.ofList tail))
  | [] => (head, none)

def inside (v : Value) : Option String → Option Value
  | none => some v
  | some tail => point v tail

def ownVariable (frame : Frame) (key : String) : Option Value := do
  let (head, tail) := splitHead key
  inside (← frame.vars.get? head) tail

def loopVariable (state : LoopState) (key : String) : Option Value :=
  if key = "loop.index" then some (Value.ofNat (state.index + 1))
  else if key = "loop.index0" then some (Value.ofNat state.index)
  else if key = "loop.first" then some (.bool (state.index == 0))
  else if key = "loop.last" then some (.bool (state.index + 1 == state.count))
  else if state.keyName = some key then some (.string state.key)
  else
    let (head, tail) := splitHead key
    if head = state.itemName then inside state.item tail else none

/-- Variables set in the frame come before those of its loop. -/
def value? (frame : Frame) (key : String) : Option Value :=
  match frame.ownVariable key with
  | some v => some v
  | none => do loopVariable (← frame.loop) key

def isLoop (frame : Frame) : Bool := frame.kind == .loop

end Frame

namespace Scope

def find? : Scope → String → Option Value
  | [], _ => none
  | frame :: outer, key =>
      match frame.value? key with
      | some v => some v
      | none =>
          match frame.kind with
          | .macroBody .. | .page => none
          | .loop | .included => find? outer key

def assign (scope : Scope) (name : String) (v : Value) : Scope :=
  match scope with
  | [] => []
  | frame :: outer => { frame with vars := frame.vars.insert name v } :: outer

def assignOutside : Scope → String → Value → Scope
  | [], _, _ => []
  | frame :: outer, name, v =>
      if frame.isLoop then frame :: assignOutside outer name v
      else { frame with vars := frame.vars.insert name v } :: outer

def loop? (scope : Scope) : Option LoopState :=
  match scope with
  | frame :: _ => frame.loop
  | [] => none

def setLoop (scope : Scope) (change : LoopState → LoopState) : Scope :=
  match scope with
  | frame :: outer => { frame with loop := frame.loop.map change } :: outer
  | [] => []

/-- A new round: the variables of the last one are gone. -/
def nextRound (scope : Scope) (index : Nat) (key : String) (item : Value) : Scope :=
  match scope with
  | frame :: outer =>
      { frame with
        vars := []
        loop := frame.loop.map fun state =>
          { state with index, key, item, ending := .going } } :: outer
  | [] => []

def isStopped (scope : Scope) : Bool :=
  match scope.loop? with
  | some state => state.ending != .going
  | none => false

def visible : Scope → Fields
  | [] => []
  | frame :: outer =>
      let own := match frame.loop with
        | none => frame.vars
        | some state =>
            let vars := frame.vars.insert state.itemName state.item
            match state.keyName with
            | some key => vars.insert key (.string state.key)
            | none => vars
      match frame.kind with
      | .macroBody .. => own
      | _ => Fields.overlay own (visible outer)

def placement (scope : Scope) : String :=
  let place := "Failed to render '" ++ pageName ++ "'"
  match scope with
  | { kind := .macroBody space name, .. } :: _ =>
      place ++ ": error while rendering macro \x60" ++ space ++ "::" ++ name ++ "\x60"
  | _ => place

/-! A path with brackets is made into one with dots: paths in brackets are
replaced by their values first. -/

def toClosing (depth : Nat) : List Char → List Char × List Char
  | [] => ([], [])
  | c :: rest =>
      if c = ']' ∧ depth = 0 then ([], rest)
      else
        let depth := if c = '[' then depth + 1 else if c = ']' then depth - 1 else depth
        let (inside, after) := toClosing depth rest
        (c :: inside, after)

def bracketPaths : Nat → List Char → List String
  | 0, _ => []
  | fuel + 1, input =>
      match input with
      | [] => []
      | '[' :: c :: rest =>
          if c = '"' ∨ c = '\'' then bracketPaths fuel rest
          else
            let (inside, after) := toClosing 0 (c :: rest)
            let more := bracketPaths fuel after
            if inside.all isDigit then more else String.ofList inside :: more
      | _ :: rest => bracketPaths fuel rest

/-- Replaces the first occurrence of a pattern; or appends, if there is none. -/
def replaceFirst (text pattern replacement : String) : String :=
  match splitText text pattern with
  | first :: rest => first ++ replacement ++ String.intercalate pattern rest
  | [] => replacement

def dotted (path : String) : String :=
  let steps := [("/", "~1"), ("['", ".\""), ("[\"", ".\""), ("[", "."), ("']", "\""),
    ("\"]", "\""), ("]", "")]
  steps.foldl (fun text step => replaceText text step.1 step.2) path

def notFound (path : String) : String :=
  "Variable \x60" ++ path ++ "\x60 not found in context while rendering '" ++ pageName ++ "'"

def resolve (scope : Scope) : Nat → String → Except String Value
  | 0, path => .error (notFound path)
  | fuel + 1, path =>
      if path = "__tera_context" then
        .ok (.string (Value.object (sortByKey scope.visible)).indentedJson)
      else if !path.toList.contains '[' then
        match scope.find? path with
        | some v => .ok v
        | none => .error (notFound path)
      else do
        let full ← (bracketPaths path.length path.toList).foldlM (fun text inner => do
          match resolve scope fuel inner with
          | .error reason =>
              throw ("Variable " ++ path ++ " can not be evaluated because: " ++ reason)
          | .ok (.string s) => return replaceFirst text ("[" ++ inner ++ "]") (".\"" ++ s ++ "\"")
          | .ok (.number n) => return replaceFirst text ("[" ++ inner ++ "]") ("." ++ n.text)
          | .ok _ =>
              throw ("Only variables evaluating to String or Number can be used as index (\x60" ++
                inner ++ "\x60 of \x60" ++ path ++ "\x60)")) path
        let full := dotted full
        match scope.find? full with
        | some v => return v
        | none =>
            throw (notFound path ++ ": the evaluated version was \x60" ++ full ++
              "\x60. Maybe the index is out of bounds?")

def lookup (scope : Scope) (path : String) : Except Fault Value :=
  match scope.resolve (path.length + 1) path with
  | .ok v => .ok v
  | .error reason => .error (.message reason)

end Scope

end Stencil.Markup
