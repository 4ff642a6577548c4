import Stencil.Catalog

/-!
Rendering in direct style. What a computation does at its own level is kept in an
account: the text it writes there, what it asks services, whether it looked at
the number of captures, and how it ends. No account holds a stack. A capture and
a nested render are accounts of their own, and of their texts only what their
owner writes appears in the account of the owner.
-/

namespace Stencil

structure Account (α : Type) where
  text : String
  asked : List Question
  sawDepth : Bool
  outcome : Except Fault α

namespace Account

variable {α β : Type}

def ended (outcome : Except Fault α) : Account α := ⟨"", [], false, outcome⟩

def wrote (text : String) : Account Unit := ⟨text, [], false, .ok ()⟩

def sawLevel (depth : Nat) : Account Nat := ⟨"", [], true, .ok depth⟩

def answered (reply : List Question × Except Fault α) : Account α := ⟨"", reply.1, false, reply.2⟩

/-- An account and then another one, which settles the outcome. -/
def before (earlier : Account α) (later : Account β) : Account β :=
  ⟨earlier.text ++ later.text, earlier.asked ++ later.asked,
    earlier.sawDepth || later.sawDepth, later.outcome⟩

def resumed (next : α → Account β) : Except Fault α → Account β
  | .ok result => next result
  | .error fault => .ended (.error fault)

def andThen (account : Account α) (next : α → Account β) : Account β :=
  account.before (resumed next account.outcome)

/-- What the owner of a capture has of it: the text is part of the result and
does not count as written. -/
def enclosed (account : Account α) : Account (α × String) :=
  ⟨"", account.asked, account.sawDepth,
    match account.outcome with
    | .ok result => .ok (result, account.text)
    | .error fault => .error fault⟩

end Account

def reported {α : Type} (site : RenderSite) (context : Context) :
    Except Fault α → Except Fault α
  | .ok result => .ok result
  | .error fault => .error (.evaluation site context.summary fault)

/-- The two capabilities of a body, as accounts of what using them does. Only a
call can see how many captures are active. -/
structure Replies where
  lookup : String → Option Value → Account Value
  invoke : Nat → String → List Value → Account Value

namespace Replies

def none : Replies where
  lookup _ fallback := .ended (.ok (fallback.getD .null))
  invoke _ name _ := .ended (.error (Registry.missing Registry.empty name))

end Replies

/-- What rendering finds around it. -/
structure Vicinity where
  files : FileTree
  holds : String → Bool
  stored : String → Replies → Nat → Account Value

def Dialog.account {α : Type} (replies : Replies) (depth : Nat) : Dialog α → Account α
  | .done answer => .ended (.ok answer)
  | .lookup key fallback next =>
      let reply := replies.lookup key fallback
      reply.before ((next reply.outcome).account replies depth)
  | .invoke name args next =>
      let reply := replies.invoke depth name args
      reply.before ((next reply.outcome).account replies depth)

/-- The text of a page is written last, and not at all if the page fails. -/
def pageAccount (files : FileTree) (path : String) (replies : Replies) (depth : Nat) :
    Account Value :=
  match files.readText path with
  | .error error =>
      .ended (.error (.layered ("Failed to read template body: " ++ path) (.file error)))
  | .ok source =>
      ((Markup.render source).account replies depth).andThen fun page =>
        match page with
        | .error fault =>
            .ended (.error (.layered ("Failed to evaluate template body: " ++ path) fault))
        | .ok text => (Account.wrote text).before (.ended (.ok .null))

mutual

/-- `depth` is the number of active captures, which only a step that reads it
looks at. -/
def Action.account (around : Vicinity) (replies : Replies) (depth : Nat) :
    Action → Account Value
  | .done value => .ended (.ok value)
  | .fail fault => .ended (.error fault)
  | .write text next => (Account.wrote text).before (next.account around replies depth)
  | .depth next => (Account.sawLevel depth).before ((next depth).account around replies depth)
  | .lookup key fallback next =>
      let reply := replies.lookup key fallback
      reply.before ((next reply.outcome).account around replies depth)
  | .invoke name args next =>
      let reply := replies.invoke depth name args
      reply.before ((next reply.outcome).account around replies depth)
  | .capture part next =>
      let captured := (part.account around replies (depth + 1)).enclosed
      captured.before ((next captured.outcome).account around replies depth)
  | .render template supply next =>
      let rendered := template.account around supply depth
      rendered.before ((next rendered.outcome).account around replies depth)
  | .locate location next => (next (around.holds location)).account around replies depth

def Body.account (around : Vicinity) (replies : Replies) (depth : Nat) : Body → Account Value
  | .program action _ => action.account around replies depth
  | .page path => pageAccount around.files path replies depth
  | .stored location => around.stored location replies depth

/-- The account of a render holds no text: the text is the result. -/
def Template.account (around : Vicinity) (supply : Supply) (depth : Nat) :
    Template → Account (Value × String)
  | .mk name body defaults functions =>
      let site := siteOf name body functions
      match supply.toContext with
      | .error fault => .ended (.error (.setup site fault))
      | .ok context =>
          let replies : Replies :=
            { lookup := fun key fallback => .answered (context.resolve defaults key fallback)
              invoke := fun depth called args => callAccount around functions called args depth
                (.ended (.error (Registry.missing functions called))) }
          let captured := (body.account around replies (depth + 1)).enclosed
          captured.before (.ended (reported site context captured.outcome))

def callAccount (around : Vicinity) :
    List (String × (List Value → Action)) → String → List Value → Nat → Account Value →
      Account Value
  | [], _, _, _, absent => absent
  | (known, function) :: rest, name, args, depth, absent =>
      if name == known then (function args).account around Replies.none depth
      else callAccount around rest name args depth absent

end

def Template.replies (around : Vicinity) (context : Context) (template : Template) :
    Replies where
  lookup key fallback := .answered (context.resolve template.defaults key fallback)
  invoke depth name args := callAccount around template.functions name args depth
    (.ended (.error (Registry.missing template.functions name)))

def Template.bodyAccount (around : Vicinity) (context : Context) (depth : Nat)
    (template : Template) : Account Value :=
  template.body.account around (template.replies around context) depth

namespace Catalog

/-- The accounts of stored bodies that lead at most `reach` levels on. -/
def accounts (catalog : Catalog) (files : FileTree) :
    Nat → String → Replies → Nat → Account Value
  | 0, _, _, _ => .ended (.error (.message "Stored template bodies are nested too deeply"))
  | reach + 1, location, replies, depth =>
      match catalog.find? location with
      | none => .ended (.error (.unknownLocation location))
      | some action =>
          action.account ⟨files, catalog.contains, accounts catalog files reach⟩ replies depth

def vicinity (catalog : Catalog) (files : FileTree) (reach : Nat) : Vicinity :=
  ⟨files, catalog.contains, catalog.accounts files reach⟩

end Catalog

end Stencil
