import Stencil.DataFormat
import Stencil.FileTree

/-!
What can go wrong, kept as causes. A fault is one object of an error chain with
the objects below it. Three wrappers stand for no text of their own: a fault
raised by a body, a fault forwarded through a page, and a layer of explanation,
which hides the kind of what it explains from a look at the object but not from
a look through layers.
-/

namespace Stencil

inductive CommandFault where
  | configNotFound (path : String)
  | configSyntax (file reason : String)
  | unsupportedFormat (path : String)
  | invalidContext (origin reason : String)
  | invalidAssignment (assignment : String)
  | templateNotFound (path : String)
  | renderFailed (template : String)
  | fileSystem (operation path : String)
  | permissionDenied (operation path : String)
  | other (message : String)
  deriving DecidableEq

namespace CommandFault

def text : CommandFault → String
  | .configNotFound path => "Configuration file not found: " ++ path
  | .configSyntax file _ => "Invalid configuration file syntax in " ++ file
  | .unsupportedFormat path => "Unsupported data file format: " ++ path
  | .invalidContext origin reason => "Invalid context from " ++ origin ++ ": " ++ reason
  | .invalidAssignment assignment =>
      "Invalid assignment '" ++ assignment ++ "': expected key=value"
  | .templateNotFound path => "Template not found: " ++ path
  | .renderFailed template => "Failed to render template '" ++ template ++ "'"
  | .fileSystem operation _ => "File system error: " ++ operation
  | .permissionDenied operation _ => "Permission denied: " ++ operation
  | .other message => message

end CommandFault

structure RenderSite where
  template : String
  location : Option String
  functions : List String
  deriving DecidableEq

structure ContextSummary where
  kind : String
  keys : Option (List String)
  deriving DecidableEq

inductive Fault where
  | message (text : String)
  | missingFunction (name : String) (suggestions : List String)
  | badShape (found : String)
  | lookup (key : String) (cause : Fault)
  | unknownLocation (location : String)
  | badLocation (location reason : String)
  | file (error : FileError)
  | malformed (format : DataFormat)
  | command (fault : CommandFault)
  /-- A step of a page that failed because of something below it. -/
  | stage (text : String) (cause : Fault)
  /-- The bindings could not be assembled; no body ran. -/
  | setup (site : RenderSite) (cause : Fault)
  /-- The body failed. -/
  | evaluation (site : RenderSite) (context : ContextSummary) (cause : Fault)
  /-- Stands in for what a body raised, between a failed render and its causes. -/
  | raised (fault : Fault)
  /-- Stands in for what a call from a page raised. -/
  | forwarded (fault : Fault)
  | layered (text : String) (inner : Fault)

instance : Inhabited Fault := ⟨.message ""⟩

namespace Fault

def text : Fault → String
  | .message text => text
  | .missingFunction name _ =>
      "Could not invoke function \"" ++ name ++
        "\": function does not exist or is not callable"
  | .badShape found =>
      "Context must be a key/value mapping, an indexable object, or a lookup service (got " ++
        found ++ ")"
  | .lookup key _ => "Could not retrieve value for key \"" ++ key ++ "\""
  | .unknownLocation location => "No template body registered at '" ++ location ++ "'"
  | .badLocation location reason =>
      "Invalid template location '" ++ location ++ "': " ++ reason
  | .file error => error.text
  | .malformed format => "<" ++ format.name ++ " error>"
  | .command fault => fault.text
  | .stage text _ => text
  | .setup .. => "Could not retrieve template bindings"
  | .evaluation .. => "Could not render template"
  | .raised fault => fault.text
  | .forwarded fault => fault.text
  | .layered text _ => text

/-- The objects below this one, outermost first. -/
def causes : Fault → List Fault
  | .lookup _ cause => cause :: cause.causes
  | .stage _ cause => cause :: cause.causes
  | .setup _ cause => cause :: cause.causes
  | .evaluation _ _ cause => .raised cause :: cause.causes
  | .raised fault => fault.causes
  | .forwarded fault => fault.causes
  | .layered _ inner => inner :: inner.causes
  | .message _ | .missingFunction .. | .badShape _ | .unknownLocation _ | .badLocation ..
  | .file _ | .malformed _ | .command _ => []

def chain (fault : Fault) : List Fault := fault :: fault.causes

def causeTexts (fault : Fault) : List String := fault.causes.map text

/-- What is explained, without the layers that explain it. -/
def bare : Fault → Fault
  | .layered _ inner => inner.bare
  | fault => fault

def withLayers (fault : Fault) (texts : List String) : Fault :=
  texts.foldl (fun inner text => .layered text inner) fault

/-- The families of faults that a search can ask for. -/
inductive Family where
  | missingFunction | context | factory | render | file
  deriving DecidableEq

def family? : Fault → Option Family
  | .missingFunction .. => some .missingFunction
  | .badShape _ | .lookup .. => some .context
  | .unknownLocation _ | .badLocation .. => some .factory
  | .setup .. | .evaluation .. => some .render
  | .file _ => some .file
  | _ => none

/-- A forwarded fault is looked at as the one it carries. -/
def seen : Fault → Fault
  | .forwarded fault => fault
  | fault => fault

def reached? (family : Family) (raised : Fault) : Option Fault :=
  (raised.chain.map seen).find? (·.family? == some family)

/-- Goes down a chain as far as what a body raised, and from there on in the chain of
the fault that the stand-in stands for. -/
def firstOf? (family : Family) : List Fault → Option Fault
  | [] => none
  | .raised fault :: _ => fault.reached? family
  | link :: rest => if link.family? = some family then some link else firstOf? family rest

/-- The first fault of a family among the causes of a failed render. What its own body
raised is looked at in its own chain, where the stand-in for what a nested body raised
hides the object it stands for. -/
def find? (family : Family) (fault : Fault) : Option Fault :=
  match fault with
  | .setup .. | .evaluation .. => firstOf? family fault.causes
  | _ => none

end Fault

end Stencil
