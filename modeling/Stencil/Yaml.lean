import Stencil.Yaml.Event
import Stencil.Yaml.Schema

/-!
Reading YAML text of one document. An alias repeats the node it refers to; how
deep and how often that may go is limited, so that every text is read to an end.
-/

namespace Stencil.Yaml

/-- For every anchor the events from its node on. -/
abbrev Anchors := List (Nat × List (Event Nat))

/-- The anchors of a document. The last anchor of a number comes first. -/
def Anchors.ofEvents : List (Event Nat) → Anchors
  | [] => []
  | event :: rest =>
      match event.anchor? with
      | some id => ofEvents rest ++ [(id, event :: rest)]
      | none => ofEvents rest

/-- The events that are left, and how many aliases may still be followed. -/
structure Place where
  events : List (Event Nat)
  budget : Nat

def Anchors.follow {α : Type} (anchors : Anchors) (id : Nat) (here : Place)
    (read : Place → Option (α × Place)) : Option (α × Place) :=
  match here.budget with
  | 0 => none
  | budget + 1 => do
      let (result, last) ← read ⟨← anchors.lookup id, budget⟩
      some (result, ⟨here.events, last.budget⟩)

def key? (anchors : Anchors) (here : Place) : Option (String × Place) :=
  let text? (here : Place) : Option (String × Place) :=
    match here.events with
    | .scalar _ _ text _ :: rest => some (text, { here with events := rest })
    | _ => none
  match here.events with
  | .alias id :: rest => anchors.follow id { here with events := rest } text?
  | _ => text? here

/-- A collection has no tag, or one of the standard set. -/
def hasKnownTag (tag : Option String) : Bool :=
  !tag.any fun tag => tag.toList.head? == some '!'

mutual

/-- `depth` is how many collections may still be opened. -/
def value? (anchors : Anchors) (fuel depth : Nat) (here : Place) : Option (Value × Place) :=
  match fuel with
  | 0 => none
  | fuel + 1 =>
      match here.events with
      | [] | .close :: _ => none
      | .alias id :: rest =>
          anchors.follow id { here with events := rest } fun target =>
            value? anchors fuel depth target
      | .scalar _ tag text isPlain :: rest => do
          some (← scalar? tag text isPlain, { here with events := rest })
      | .openSequence _ tag :: rest =>
          match depth, hasKnownTag tag with
          | depth + 1, true => do
              let (values, last) ← items? anchors fuel depth { here with events := rest }
              some (.array values, last)
          | _, _ => none
      | .openMapping _ tag :: rest =>
          match depth, hasKnownTag tag with
          | depth + 1, true => do
              let (entries, last) ← entries? anchors fuel depth { here with events := rest }
              some (.object (Fields.ofList entries), last)
          | _, _ => none

def items? (anchors : Anchors) (fuel depth : Nat) (here : Place) :
    Option (List Value × Place) :=
  match fuel with
  | 0 => none
  | fuel + 1 =>
      match here.events with
      | .close :: rest => some ([], { here with events := rest })
      | _ => do
          let (value, here) ← value? anchors fuel depth here
          let (values, last) ← items? anchors fuel depth here
          some (value :: values, last)

def entries? (anchors : Anchors) (fuel depth : Nat) (here : Place) :
    Option (List (String × Value) × Place) :=
  match fuel with
  | 0 => none
  | fuel + 1 =>
      match here.events with
      | .close :: rest => some ([], { here with events := rest })
      | _ => do
          let (key, here) ← key? anchors here
          let (value, here) ← value? anchors fuel depth here
          let (entries, last) ← entries? anchors fuel depth here
          some ((key, value) :: entries, last)

end

def maxDepth : Nat := 128

def aliasesPerEvent : Nat := 100

/-- Reads a text; without a document it is null. On each of the levels that are
allowed no more calls wait than the document has events. -/
def parse? (text : String) : Option Value := do
  let events ← Event.number? [] (← Event.ofTokens? (← tokens? text))
  if events.isEmpty then return .null
  let size := events.length
  let (value, _) ← value? (Anchors.ofEvents events) ((maxDepth + 2) * (size + 2)) maxDepth
    ⟨events, aliasesPerEvent * size⟩
  return value

end Stencil.Yaml
