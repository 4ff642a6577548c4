import Stencil.Yaml.Token

/-!
The events of a YAML document: its nodes in order, with collections opened and
closed. Tokens become events by the grammar of nodes; then every anchor gets a
number, by which aliases refer to it.
-/

namespace Stencil.Yaml

/-- `Anchor` is what anchors are known by: labels first, numbers in the end. -/
inductive Event (Anchor : Type) where
  | alias (anchor : Anchor)
  | scalar (anchor : Option Anchor) (tag : Option String) (text : String) (isPlain : Bool)
  | openSequence (anchor : Option Anchor) (tag : Option String)
  | openMapping (anchor : Option Anchor) (tag : Option String)
  | close

namespace Event

def anchor? {Anchor : Type} : Event Anchor → Option Anchor
  | .scalar anchor .. | .openSequence anchor _ | .openMapping anchor _ => anchor
  | .alias _ | .close => none

def missing : Event String := .scalar none none "" true

abbrev Reading := Option (List (Event String) × List Token)

abbrev Handles := List (String × String)

def defaultHandles : Handles := [("!", "!"), ("!!", "tag:yaml.org,2002:")]

structure Properties where
  anchor : Option String
  tag : Option String

def resolveTag? (handles : Handles) (handle suffix : String) : Option String :=
  if handle.isEmpty then some suffix else (handles.lookup handle).map (· ++ suffix)

def properties? (handles : Handles) (tokens : List Token) : Option (Properties × List Token) :=
  match tokens with
  | .anchor label :: .tag handle suffix :: rest
  | .tag handle suffix :: .anchor label :: rest => do
      some (⟨some label, some (← resolveTag? handles handle suffix)⟩, rest)
  | .anchor label :: rest => some (⟨some label, none⟩, rest)
  | .tag handle suffix :: rest => do
      some (⟨none, some (← resolveTag? handles handle suffix)⟩, rest)
  | _ => some (⟨none, none⟩, tokens)

def endsBlockNode : List Token → Bool
  | .key :: _ | .value :: _ | .closeBlock :: _ => true
  | _ => false

mutual

/-- A node. `inBlock` allows block collections, and `loose` a sequence with the
indentation of the mapping around it. -/
def node? (handles : Handles) (fuel : Nat) (inBlock loose : Bool) (tokens : List Token) :
    Reading :=
  match fuel with
  | 0 => none
  | fuel + 1 =>
      match tokens with
      | .alias label :: rest => some ([.alias label], rest)
      | _ => do
          let (given, start) ← properties? handles tokens
          let open_ (event : Event String) (body : Reading) : Reading :=
            body.map fun (events, rest) => (event :: events, rest)
          let sequence : Event String := .openSequence given.anchor given.tag
          let mapping : Event String := .openMapping given.anchor given.tag
          match start with
          | .item :: _ =>
              if loose then open_ sequence (looseItems? handles fuel start)
              else absent given start
          | .scalar text isPlain :: rest =>
              -- A lone mark says only that the scalar has no tag.
              let lone := given.tag == some "!"
              some ([.scalar given.anchor (if lone then none else given.tag) text isPlain], rest)
          | .openSequence :: rest => open_ sequence (flowItems? handles fuel true rest)
          | .openMapping :: rest => open_ mapping (flowEntries? handles fuel true rest)
          | .openBlockSequence :: rest =>
              if inBlock then open_ sequence (blockItems? handles fuel rest)
              else absent given start
          | .openBlockMapping :: rest =>
              if inBlock then open_ mapping (blockEntries? handles fuel rest)
              else absent given start
          | _ => absent given start

def absent (given : Properties) (rest : List Token) : Reading :=
  if given.anchor.isNone ∧ given.tag.isNone then none
  else some ([.scalar given.anchor given.tag "" true], rest)

def blockItems? (handles : Handles) (fuel : Nat) (tokens : List Token) : Reading :=
  match fuel, tokens with
  | _ + 1, .closeBlock :: rest => some ([.close], rest)
  | fuel + 1, .item :: rest => do
      let (events, rest) ← match rest with
        | .item :: _ | .closeBlock :: _ => some ([missing], rest)
        | _ => node? handles fuel true false rest
      let (more, rest) ← blockItems? handles fuel rest
      some (events ++ more, rest)
  | _, _ => none

def looseItems? (handles : Handles) (fuel : Nat) (tokens : List Token) : Reading :=
  match fuel, tokens with
  | fuel + 1, .item :: rest => do
      let (events, rest) ← match rest with
        | .item :: _ => some ([missing], rest)
        | _ =>
            if endsBlockNode rest then some ([missing], rest)
            else node? handles fuel true false rest
      let (more, rest) ← looseItems? handles fuel rest
      some (events ++ more, rest)
  | _ + 1, rest => some ([.close], rest)
  | 0, _ => none

def blockEntries? (handles : Handles) (fuel : Nat) (tokens : List Token) : Reading :=
  match fuel, tokens with
  | _ + 1, .closeBlock :: rest => some ([.close], rest)
  | fuel + 1, .key :: rest => do
      let (key, rest) ←
        if endsBlockNode rest then some ([missing], rest)
        else node? handles fuel true true rest
      let (value, rest) ← match rest with
        | .value :: rest =>
            if endsBlockNode rest then some ([missing], rest)
            else node? handles fuel true true rest
        | _ => some ([missing], rest)
      let (more, rest) ← blockEntries? handles fuel rest
      some (key ++ value ++ more, rest)
  | _, _ => none

/-- Items between brackets; a key among them makes a mapping of one entry. -/
def flowItems? (handles : Handles) (fuel : Nat) (first : Bool) (tokens : List Token) : Reading :=
  match fuel with
  | 0 => none
  | fuel + 1 => do
      let start ← match tokens with
        | .closeSequence :: _ => some tokens
        | .comma :: rest => if first then some tokens else some rest
        | _ => if first then some tokens else none
      match start with
      | .closeSequence :: rest => some ([.close], rest)
      | .key :: rest =>
          -- A key that is left out takes the token after it along.
          let (key, rest) ← match rest with
            | .value :: rest | .comma :: rest | .closeSequence :: rest => some ([missing], rest)
            | _ => node? handles fuel false false rest
          let (value, rest) ← match rest with
            | .value :: rest =>
                match rest with
                | .comma :: _ | .closeSequence :: _ => some ([missing], rest)
                | _ => node? handles fuel false false rest
            | _ => some ([missing], rest)
          let (more, rest) ← flowItems? handles fuel false rest
          some (.openMapping none none :: key ++ value ++ .close :: more, rest)
      | _ =>
          let (events, rest) ← node? handles fuel false false start
          let (more, rest) ← flowItems? handles fuel false rest
          some (events ++ more, rest)

/-- Entries between braces; a key alone has no value. -/
def flowEntries? (handles : Handles) (fuel : Nat) (first : Bool) (tokens : List Token) :
    Reading :=
  match fuel with
  | 0 => none
  | fuel + 1 => do
      let start ← match tokens with
        | .closeMapping :: _ => some tokens
        | .comma :: rest => if first then some tokens else some rest
        | _ => if first then some tokens else none
      match start with
      | .closeMapping :: rest => some ([.close], rest)
      | .key :: rest =>
          let (key, rest) ← match rest with
            | .value :: _ | .comma :: _ | .closeMapping :: _ => some ([missing], rest)
            | _ => node? handles fuel false false rest
          let (value, rest) ← match rest with
            | .value :: rest =>
                match rest with
                | .comma :: _ | .closeMapping :: _ => some ([missing], rest)
                | _ => node? handles fuel false false rest
            | _ => some ([missing], rest)
          let (more, rest) ← flowEntries? handles fuel false rest
          some (key ++ value ++ more, rest)
      | _ =>
          let (key, rest) ← node? handles fuel false false start
          let (more, rest) ← flowEntries? handles fuel false rest
          some (key ++ missing :: more, rest)

end

/-- The directives before a document. Each may be given once. -/
def directives? (versioned : Bool) (handles : Handles) :
    List Token → Option (Handles × List Token)
  | .version major minor :: rest =>
      if versioned ∨ major ≠ 1 ∨ (minor ≠ 1 ∧ minor ≠ 2) then none
      else directives? true handles rest
  | .tagLead handle lead :: rest =>
      if (handles.lookup handle).isSome then none
      else directives? versioned (handles ++ [(handle, lead)]) rest
  | rest => some (handles, rest)

def root? (handles : Handles) (tokens : List Token) : Reading :=
  node? handles (3 * tokens.length + 3) true false tokens

def ofTokens? (tokens : List Token) : Option (List (Event String)) := do
  let (events, rest) ← match tokens with
    | [] => some ([], [])
    | .version .. :: _ | .tagLead .. :: _ | .documentStart :: _ =>
        let (handles, rest) ← directives? false [] tokens
        match rest with
        | .documentStart :: rest =>
            match rest with
            | [] | .version .. :: _ | .tagLead .. :: _ | .documentStart :: _
            | .documentEnd :: _ => some ([missing], rest)
            | _ => root? (handles ++ defaultHandles) rest
        | _ => none
    | _ => root? defaultHandles tokens
  if rest.all (· == .documentEnd) then some events else none

/-- Gives every anchor a number. A label that is used again takes the count of
labels as its number, and an alias means the anchor before it. -/
def number? (known : List (String × Nat)) : List (Event String) → Option (List (Event Nat))
  | [] => some []
  | event :: rest =>
      let mark (anchor : Option String) : Option Nat × List (String × Nat) :=
        match anchor with
        | none => (none, known)
        | some label =>
            (some known.length,
              (label, known.length) :: known.filter fun entry => entry.1 != label)
      match event with
      | .alias label => do
          let id ← known.lookup label
          some (.alias id :: (← number? known rest))
      | .scalar anchor tag text isPlain => do
          let (id, known) := mark anchor
          some (.scalar id tag text isPlain :: (← number? known rest))
      | .openSequence anchor tag => do
          let (id, known) := mark anchor
          some (.openSequence id tag :: (← number? known rest))
      | .openMapping anchor tag => do
          let (id, known) := mark anchor
          some (.openMapping id tag :: (← number? known rest))
      | .close => do some (.close :: (← number? known rest))

end Event

end Stencil.Yaml
