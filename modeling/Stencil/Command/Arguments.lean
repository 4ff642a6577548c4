import Stencil.Command.Basic

/-!
Reading the arguments. There are two levels: options before the name of a
command, and options and values after it. An option that takes a value settles
only when the next thing is read, so a mistake in its value comes after a
mistake that ends the reading at once.
-/

namespace Stencil

/-- Why there is nothing to carry out. Asking for help or for the version is no
mistake. -/
inductive Rejection where
  | help | version
  /-- Help, because nothing at all was given. -/
  | helpForNothing
  | missingCommand | unknownCommand | unknownArgument | missingArgument
  | badValue | needlessValue
  /-- Given twice, or together with what it excludes. -/
  | conflict
  deriving DecidableEq

namespace Rejection

def exitCode : Rejection → Nat
  | .help | .version => 0
  | _ => 2

end Rejection

namespace Arguments

inductive Level where
  | top | render | functions
  deriving DecidableEq

inductive Switch where
  | help | version | verbose | quiet
  deriving DecidableEq

/-- What takes a value. Only the template has no name. -/
inductive Parameter where
  | settings | context | output | assignment | layout | template
  deriving DecidableEq

inductive Name where
  | switch (s : Switch)
  | parameter (p : Parameter)
  deriving DecidableEq

def layout? : String → Option ListLayout
  | "text" => some .text
  | "json" => some .json
  | _ => none

/-- Paths may not be empty, and a layout must be known. -/
def Parameter.accepts (p : Parameter) (value : String) : Bool :=
  match p with
  | .assignment => true
  | .layout => (layout? value).isSome
  | _ => !value.isEmpty

def Level.word? (level : Level) (word : String) : Option Name :=
  match level, word with
  | _, "help" => some (.switch .help)
  | .top, "version" => some (.switch .version)
  | _, "verbose" => some (.switch .verbose)
  | _, "quiet" => some (.switch .quiet)
  | _, "config" => some (.parameter .settings)
  | .render, "context" => some (.parameter .context)
  | .render, "set" => some (.parameter .assignment)
  | .render, "output" => some (.parameter .output)
  | .functions, "format" => some (.parameter .layout)
  | _, _ => none

def Level.letter? (level : Level) (letter : Char) : Option Name :=
  match level, letter with
  | _, 'h' => some (.switch .help)
  | .top, 'V' => some (.switch .version)
  | _, 'v' => some (.switch .verbose)
  | _, 'q' => some (.switch .quiet)
  | _, 'c' => some (.parameter .settings)
  | .render, 'o' => some (.parameter .output)
  | _, _ => none

def command? : String → Option Level
  | "render" => some .render
  | "functions" => some .functions
  | _ => none

/-- What has been read on one level. `pending` is a parameter that has not
settled, with its value as far as it has one. -/
structure Reading where
  level : Level
  switches : List Switch
  values : List (Parameter × String)
  pending : Option (Parameter × Option String)
  /-- Two dashes have been read, after which nothing is an option. -/
  onlyValues : Bool

namespace Reading

def start (level : Level) : Reading := ⟨level, [], [], none, false⟩

def has (r : Reading) (p : Parameter) : Bool := r.values.any fun entry => entry.1 == p

/-- Gives a parameter its value. Only assignments may be repeated. -/
def give (r : Reading) (p : Parameter) (value : String) : Except Rejection Reading :=
  if p ≠ .assignment ∧ r.has p then .error .conflict
  else if !p.accepts value then .error .badValue
  else .ok { r with values := r.values ++ [(p, value)] }

def settle (r : Reading) : Except Rejection Reading :=
  match r.pending with
  | none => .ok r
  | some (_, none) => .error .badValue
  | some (p, some value) => { r with pending := none }.give p value

def flip (r : Reading) (s : Switch) : Except Rejection Reading := do
  let r ← r.settle
  match s with
  | .help => throw .help
  | .version => throw .version
  | s =>
      if r.switches.contains s then throw .conflict
      else return { r with switches := r.switches ++ [s] }

def name (r : Reading) (p : Parameter) (value : Option String) : Except Rejection Reading := do
  let r ← r.settle
  match value with
  | some value => r.give p value
  | none => return { r with pending := some (p, none) }

def readWord (r : Reading) (word : String) (value : Option String) :
    Except Rejection Reading :=
  match r.level.word? word, value with
  | none, _ => .error .unknownArgument
  | some (.switch _), some _ => .error .needlessValue
  | some (.switch s), none => r.flip s
  | some (.parameter p), _ => r.name p value

/-- Letters in one argument. The first that takes a value takes all that is left,
less an equals sign before it. -/
def readLetters (r : Reading) : List Char → Except Rejection Reading
  | [] => .ok r
  | letter :: rest =>
      match r.level.letter? letter with
      | none => .error .unknownArgument
      | some (.switch s) => do (← r.flip s).readLetters rest
      | some (.parameter p) =>
          match rest with
          | [] => r.name p none
          | '=' :: value => r.name p (some (String.ofList value))
          | value => r.name p (some (String.ofList value))

def readValue (r : Reading) (value : String) : Except Rejection Reading :=
  match r.level with
  | .top =>
      .error (if r.onlyValues ∧ ((command? value).isSome ∨ value = "help") then .unknownArgument
        else .unknownCommand)
  | .functions => .error .unknownArgument
  | .render =>
      let taken := r.has .template || r.pending.any fun pending => pending.1 == .template
      if taken then .error .unknownArgument
      else do
        let r ← r.settle
        return { r with pending := some (.template, some value) }

def readArgument (r : Reading) (argument : String) : Except Rejection Reading :=
  if r.onlyValues then r.readValue argument
  else match argument.toList with
    | ['-', '-'] => .ok { r with onlyValues := true }
    | '-' :: '-' :: body =>
        let word := String.ofList (body.takeWhile (· != '='))
        match body.dropWhile (· != '=') with
        | _ :: value => r.readWord word (some (String.ofList value))
        | [] => r.readWord word none
    | '-' :: letter :: rest => r.readLetters (letter :: rest)
    | _ =>
        match r.pending with
        | some (p, none) => .ok { r with pending := some (p, some argument) }
        | _ => r.readValue argument

def awaitsCommand (r : Reading) : Bool :=
  r.level == .top && !r.onlyValues && match r.pending with
    | some (_, none) => false
    | _ => true

def checkSwitches (r : Reading) : Except Rejection Unit :=
  if r.switches.contains .verbose ∧ r.switches.contains .quiet then .error .conflict else .ok ()

def value? (r : Reading) (p : Parameter) : Option String := r.values.lookup p

def assignments (r : Reading) : List String :=
  (r.values.filter fun entry => entry.1 == .assignment).map Prod.snd

end Reading

def readCommand (level : Level) (arguments : List String) : Except Rejection Reading := do
  let r ← (← arguments.foldlM Reading.readArgument (Reading.start level)).settle
  r.checkSwitches
  return r

def helpFor : List String → Rejection
  | [] => .help
  | [name] => if (command? name).isSome ∨ name = "help" then .help else .unknownCommand
  | _ => .unknownCommand

def commandOf (r : Reading) : Except Rejection Command :=
  match r.level with
  | .functions => .ok (.functions (((r.value? .layout).bind layout?).getD .text))
  | _ =>
      match r.value? .template with
      | none => .error .missingArgument
      | some template =>
          .ok (.render ⟨template, r.value? .context, r.assignments, r.value? .output⟩)

/-- Puts the two levels together. A switch holds on either, and the settings file
named after the command wins. -/
def combine (top inner : Reading) : Except Rejection Invocation := do
  let command ← commandOf inner
  let top ← top.settle
  top.checkSwitches
  let has (s : Switch) : Bool := top.switches.contains s || inner.switches.contains s
  return ⟨command, has .verbose, has .quiet, inner.value? .settings <|> top.value? .settings⟩

def withoutCommand (top : Reading) : Except Rejection Invocation := do
  let top ← top.settle
  throw (if top.switches.isEmpty ∧ top.values.isEmpty then .helpForNothing else .missingCommand)

def readTop (top : Reading) : List String → Except Rejection Invocation
  | [] => withoutCommand top
  | argument :: rest => do
      if top.awaitsCommand then
        if argument = "help" then throw (helpFor rest)
        match command? argument with
        | some level => return ← combine top (← readCommand level rest)
        | none => pure ()
      readTop (← top.readArgument argument) rest

end Arguments

def Invocation.ofArguments (arguments : List String) : Except Rejection Invocation :=
  Arguments.readTop (Arguments.Reading.start .top) arguments

end Stencil
