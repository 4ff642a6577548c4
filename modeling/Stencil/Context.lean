import Stencil.Fault
import Stencil.Value.Basic

/-!
Where a template reads named values. A context is a map, an indexable object or
a lookup service, or nothing at all. A key resolves to the context's value, else
to the default, else to the fallback, else to null. What a service is asked is
kept, so that how often it is asked is part of the meaning.
-/

namespace Stencil

structure Indexable where
  keys : Option (List String)
  has : String → Bool
  get : String → Option Value

/-- A service is asked for a value only after it has claimed the key. -/
structure Service where
  label : String
  has : String → Bool
  get : String → Except Fault Value

inductive Request where
  | has | get
  deriving DecidableEq

structure Question where
  service : String
  request : Request
  key : String
  deriving DecidableEq

inductive Context where
  | empty
  | map (fields : Fields)
  | indexable (object : Indexable)
  | service (source : Service)

namespace Context

def kind : Context → String
  | .empty => "empty"
  | .map _ => "map"
  | .indexable _ => "indexable"
  | .service _ => "service"

def knownKeys : Context → Option (List String)
  | .empty => some []
  | .map fields => some fields.keys
  | .indexable object => object.keys
  | .service _ => none

def summary (context : Context) : ContextSummary := ⟨context.kind, context.knownKeys⟩

def table (fields : Fields) : Context :=
  let sorted : Fields := sortByKey fields
  .indexable ⟨some sorted.keys, sorted.hasKey, sorted.get?⟩

def find (context : Context) (key : String) : List Question × Except Fault (Option Value) :=
  match context with
  | .empty => ([], .ok none)
  | .map fields => ([], .ok (fields.get? key))
  | .indexable object =>
      ([], .ok (if object.has key then some ((object.get key).getD .null) else none))
  | .service source =>
      if source.has key then
        let answer := match source.get key with
          | .ok value => .ok (some value)
          | .error cause => .error (.lookup key cause)
        ([⟨source.label, .has, key⟩, ⟨source.label, .get, key⟩], answer)
      else ([⟨source.label, .has, key⟩], .ok none)

def resolve (context : Context) (defaults : Fields) (key : String) (fallback : Option Value) :
    List Question × Except Fault Value :=
  match context.find key with
  | (asked, .error fault) => (asked, .error fault)
  | (asked, .ok (some value)) => (asked, .ok value)
  | (asked, .ok none) =>
      (asked, .ok ((defaults.get? key).getD (fallback.getD .null)))

end Context

/-- What a caller may pass as a context: nothing, a value, a context, or one of
these as an option or lent. -/
inductive Supply where
  | nothing
  | value (value : Value)
  | context (given : Context)
  | absent
  | present (inner : Supply)
  | lent (inner : Supply)

namespace Supply

/-- Only an object or null among the values is a context. -/
def toContext : Supply → Except Fault Context
  | .nothing | .absent => .ok .empty
  | .value (.object fields) => .ok (.map fields)
  | .value .null => .ok .empty
  | .value other => .error (.badShape other.describe)
  | .context given => .ok given
  | .present inner | .lent inner => inner.toContext

end Supply

end Stencil
