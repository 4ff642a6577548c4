import Stencil.Assignment
import Stencil.DataFile

/-!
The commands: rendering one page file, and listing the functions that pages may
call.
-/

namespace Stencil

structure PageOrder where
  template : String
  contextFile : Option String
  assignments : List String
  output : Option String
  deriving DecidableEq

inductive ListLayout where
  | text | json
  deriving DecidableEq

inductive Command where
  | render (order : PageOrder)
  | functions (layout : ListLayout)
  deriving DecidableEq

structure Invocation where
  command : Command
  verbose : Bool
  quiet : Bool
  settingsFile : Option String
  deriving DecidableEq

namespace Invocation

def logLevel? (invocation : Invocation) : Option String :=
  if invocation.verbose then some "debug"
  else if invocation.quiet then none
  else some "warn"

end Invocation

namespace PageOrder

def fileContext (files : FileTree) (path : String) : Except Fault Fields := do
  match ← files.readData path with
  | .object fields => return fields
  | other =>
      throw (.command (.invalidContext path
        ("expected a table of keys, found " ++ other.describe)))

/-- The context: the table in the file, with the assignments laid over it in
order. -/
def context (order : PageOrder) (files : FileTree) : Except Fault Fields := do
  let base ← match order.contextFile with
    | some path => fileContext files path
    | none => pure []
  order.assignments.foldlM (fun fields source => do
    let assignment ← Assignment.parse source
    return fields.insert assignment.key assignment.value) base

end PageOrder

end Stencil
