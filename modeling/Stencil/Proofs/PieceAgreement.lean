import Mathlib.Algebra.Group.Nat.Defs
import Stencil.Proofs.FaultSearch
import Stencil.Proofs.Rendering
import Stencil.Proofs.SearchReach
import Stencil.Proofs.TagEvaluation

/-!
Pages and programs of the same pieces agree. A page gathers its text and writes it when it
is complete; a program writes as it goes. Both ask for the same things in the same order,
and the fault that ends the one lies behind layers and a stand-in in the other.
-/

namespace Stencil

theorem Dialog.account_bind_done {α β : Type} (replies : Replies) (depth : Nat)
    (dialog : Dialog α) (change : α → β) :
    (dialog.bind fun answer => .done (change answer)).account replies depth =
      (dialog.account replies depth).before
        (.ended ((dialog.account replies depth).outcome.map change)) := by
  induction dialog with
  | done answer => rfl
  | lookup key fallback next ih =>
      simp [bind, account, ih, Account.before, Account.ended]
  | invoke name args next ih =>
      simp [bind, account, ih, Account.before, Account.ended]

namespace Asking

def account (replies : Replies) (depth : Nat) : Asking → Account Value
  | .value key fallback => replies.lookup key fallback
  | .call name args => replies.invoke depth name args

theorem account_dialog {α : Type} (replies : Replies) (depth : Nat) (asking : Asking)
    (next : Except Fault Value → Dialog α) :
    (asking.dialog.bind next).account replies depth =
      (asking.account replies depth).before
        ((next (asking.account replies depth).outcome).account replies depth) := by
  cases asking <;> rfl

theorem account_step (around : Vicinity) (replies : Replies) (depth : Nat) (asking : Asking)
    (next : Except Fault Value → Action) :
    (asking.step next).account around replies depth =
      (asking.account replies depth).before
        ((next (asking.account replies depth).outcome).account around replies depth) := by
  cases asking <;> rfl

end Asking

def Textual (replies : Replies) (depth : Nat) (pieces : List Piece) : Prop :=
  ∀ tag, .ask tag ∈ pieces → (tag.asking.account replies depth).text = "" ∧
    ∀ value, (tag.asking.account replies depth).outcome = .ok value → ∃ s, value = .string s

namespace Markup

/-- What a page does, given what the program of the same pieces does: it asks the same and
writes nothing on the way. Its result is the text that the program has written, or else it
fails for the tag for which the program fails. -/
structure Mirrors (replies : Replies) (depth : Nat) (scope : Scope) (held : String)
    (pieces : List Piece) (page : Account (Except Fault String × Scope)) (own : Account Value) :
    Prop where
  text : page.text = ""
  asked : page.asked = own.asked
  outcome : (own.outcome = .ok .null ∧ page.outcome = .ok (.ok (held ++ own.text), scope)) ∨
    ∃ tag fault, .ask tag ∈ pieces ∧
      (tag.asking.account replies depth).outcome = .error fault ∧ own.outcome = .error fault ∧
      page.outcome = .ok (.error (.under [scope.placement,
        "Function call '" ++ tag.tool ++ "' failed"] (tag.asking.refused fault)), scope)

theorem printed_before_nothing (answer : Except Fault String × Scope) :
    printedBefore "" answer = answer := by
  obtain ⟨outcome, later⟩ := answer
  cases outcome <;> simp [printedBefore, Except.map]

theorem render_page_held (book : Book) (held : List Char) (rest : List Node) (scope : Scope) :
    (renderPage book (textNodes held ++ rest)).run.run scope =
      ((renderPage book rest).run.run scope).bind fun answer =>
        .done (printedBefore (String.ofList held) answer) := by
  by_cases empty : held = []
  · subst empty
    have nothing : String.ofList [] = "" := rfl
    simp only [nothing, printed_before_nothing, Dialog.bind_done]
    rfl
  · rw [textNodes, if_neg (by simpa using empty)]
    exact render_page_text book (String.ofList held) rest scope

variable {replies : Replies} {depth : Nat}

/-- One case for each kind of piece. Text waits to be printed with what follows it; a tag
is answered alike on both sides. -/
theorem pieces_mirror (around : Vicinity) (book : Book) (scope : Scope) (pieces : List Piece)
    (textual : Textual replies depth pieces) (held : List Char) :
    Mirrors replies depth scope (String.ofList held) pieces
      (((renderPage book (pieceNodes held pieces)).run.run scope).account replies depth)
      ((programOf pieces).account around replies depth) := by
  induction pieces generalizing held with
  | nil =>
      have alone := render_page_held book held [] scope
      rw [List.append_nil] at alone
      rw [pieceNodes, alone]
      refine ⟨rfl, rfl, .inl ⟨rfl, ?_⟩⟩
      rw [Dialog.account_bind_done]
      rfl
  | cons piece rest ih =>
      have further : Textual replies depth rest :=
        fun tag inside => textual tag (List.mem_cons_of_mem _ inside)
      cases piece with
      | text s =>
          obtain ⟨text, asked, outcome⟩ := ih further (held ++ s.toList)
          refine ⟨text, asked, ?_⟩
          rcases outcome with ⟨done, printed⟩ | ⟨tag, fault, inside, refused, failed, printed⟩
          · left
            refine ⟨done, ?_⟩
            rw [pieceNodes, printed, programOf, Action.account]
            simp [Account.before, Account.wrote, String.append_assoc]
          · right
            exact ⟨tag, fault, List.mem_cons_of_mem _ inside, refused, failed, printed⟩
      | ask tag =>
          obtain ⟨quiet, string⟩ := textual tag List.mem_cons_self
          -- The text held so far is printed before the tag on the page; the program has
          -- written it already.
          rw [pieceNodes, render_page_held, render_page_tag, Dialog.account_bind_done,
            Asking.account_dialog, programOf, Asking.account_step]
          generalize told : tag.asking.account replies depth = reply at quiet string
          cases answer : reply.outcome with
          | ok value =>
              obtain ⟨s, same⟩ := string value answer
              subst same
              obtain ⟨text, asked, outcome⟩ := ih further []
              have complete : completed tag (.ok (.string s)) = .ok (.string s) := rfl
              simp only [complete, Dialog.account_bind_done]
              refine ⟨?_, ?_, ?_⟩
              · simp [Account.before, Account.ended, quiet, text]
              · simp [Account.before, Account.ended, Account.wrote, Action.account, asked]
              · rcases outcome with ⟨done, shown⟩ | ⟨other, fault, inside, refused, failed, shown⟩
                · left
                  refine ⟨done, ?_⟩
                  simp [Account.before, Account.ended, Account.wrote, Action.account, shown, quiet,
                    printedBefore, Except.map, printed, Value.text]
                · right
                  refine ⟨other, fault, List.mem_cons_of_mem _ inside, refused, failed, ?_⟩
                  simp [Account.before, Account.ended, shown, printedBefore, Except.map]
          | error fault =>
              have complete : completed tag (.error fault) = .error (.stage
                  ("Function call '" ++ tag.tool ++ "' failed") (tag.asking.refused fault)) := rfl
              simp only [complete]
              refine ⟨?_, ?_, .inr ⟨tag, fault, List.mem_cons_self, ?_, rfl, rfl⟩⟩
              · simp [Account.before, Account.ended, Dialog.account, quiet]
              · simp [Account.before, Account.ended, Dialog.account, Action.account]
              · rw [told, answer]

end Markup

def pageEnd (path : String) : Except Fault String → Account Value
  | .error fault =>
      .ended (.error (.layered ("Failed to evaluate template body: " ++ path) fault))
  | .ok text => (Account.wrote text).before (.ended (.ok .null))

/-- A page of pieces writes what their program writes, or fails for the same request. -/
theorem page_account_pieces (around : Vicinity) (files : FileTree) (path : String)
    (pieces : List Piece) (plain : ∀ piece ∈ pieces, piece.Plain)
    (kept : files.readText path = .ok (pageOf pieces)) {replies : Replies} {depth : Nat}
    (textual : Textual replies depth pieces) :
    let page := pageAccount files path replies depth
    let own := (programOf pieces).account around replies depth
    page.asked = own.asked ∧
    ((own.outcome = .ok .null ∧ page.outcome = .ok .null ∧ page.text = own.text) ∨
      ∃ tag fault steps, .ask tag ∈ pieces ∧
        (tag.asking.account replies depth).outcome = .error fault ∧ own.outcome = .error fault ∧
        page.outcome = .error (.layered ("Failed to evaluate template body: " ++ path)
          (.under steps (tag.asking.refused fault)))) := by
  intro page own
  let book : Markup.Book := ⟨Markup.pieceNodes [] pieces, [], []⟩
  let rendered := (Markup.renderPage book book.nodes).run.run [Markup.Frame.plain .page []]
  have shape : page = ((rendered.bind fun answer => .done answer.1).account replies depth).andThen
      (pageEnd path) := by
    change pageAccount files path replies depth = _
    rw [pageAccount, kept]
    dsimp only
    rw [Markup.render, Markup.bind_written pieces plain]
    rfl
  obtain ⟨text, asked, outcome⟩ := Markup.pieces_mirror around book
    [Markup.Frame.plain .page []] pieces textual []
  rw [Dialog.account_bind_done] at shape
  change (rendered.account replies depth).text = "" at text
  change (rendered.account replies depth).asked = own.asked at asked
  rcases outcome with ⟨done, shown⟩ | ⟨tag, fault, inside, refused, failed, shown⟩
  · change (rendered.account replies depth).outcome = _ at shown
    refine ⟨?_, .inl ⟨done, ?_, ?_⟩⟩
    · simp [shape, pageEnd, Account.andThen, Account.resumed, Account.before, Account.ended,
        Account.wrote, shown, asked, Except.map]
    · simp [shape, pageEnd, Account.andThen, Account.resumed, Account.before, Account.ended, shown,
        Except.map]
    · simp [shape, pageEnd, Account.andThen, Account.resumed, Account.before, Account.ended,
        Account.wrote, shown, text, Except.map, own]
  · change (rendered.account replies depth).outcome = _ at shown
    refine ⟨?_, .inr ⟨tag, fault, [Markup.Scope.placement [Markup.Frame.plain .page []],
      "Function call '" ++ tag.tool ++ "' failed"], inside, refused, failed, ?_⟩⟩
    · simp [shape, pageEnd, Account.andThen, Account.resumed, Account.before, Account.ended,
        shown, asked, Except.map]
    · simp [shape, pageEnd, Account.andThen, Account.resumed, Account.before, Account.ended, shown,
        Except.map]

/-- What a search finds below the layers of a page is what it finds in the fault itself,
unless that only stands for another one. -/
theorem Fault.reached?_refused (family : Fault.Family) (text : String) (steps : List String)
    (asking : Asking) (fault : Fault)
    (own : ∀ name args, asking = .call name args → fault.seen = fault) :
    (Fault.layered text (.under steps (asking.refused fault))).reached? family =
      fault.reached? family := by
  have layer : ∀ whole inner : Fault, whole.chain = whole :: inner.chain → whole.seen = whole →
      whole.family? = none → whole.reached? family = inner.reached? family := by
    intro whole inner chain seen none
    rw [Fault.reached?, chain, List.map_cons, seen, List.find?_cons_of_neg (by simp [none])]
    rfl
  have staged : ∀ steps, (Fault.under steps (asking.refused fault)).reached? family =
      (asking.refused fault).reached? family := by
    intro steps
    induction steps with
    | nil => rfl
    | cons step steps ih => exact (layer _ _ rfl rfl rfl).trans ih
  rw [layer _ _ rfl rfl rfl, staged]
  cases asking with
  | value key fallback => exact layer (.stage _ fault) fault rfl rfl rfl
  | call name args =>
      have same := own name args rfl
      refine (layer (.stage _ (.forwarded fault)) (.forwarded fault) rfl rfl rfl).trans ?_
      rw [Fault.reached?, Fault.reached?, Fault.chain, Fault.chain, List.map_cons, List.map_cons,
        same]
      rfl

/-! From accounts back to renders. -/

/-- Functions that write nothing, and whose faults are their own: none of them is the
stand-in by which a page carries the fault of a function. -/
structure Registry.Tidy (around : Surroundings) (functions : Registry) : Prop where
  quiet : ∀ entry ∈ functions, ∀ args world,
    (((entry.2 args).run around Bindings.none).run world).2.channel = world.channel
  own : ∀ entry ∈ functions, ∀ args world inner,
    (((entry.2 args).run around Bindings.none).run world).1 ≠ .error (.forwarded inner)

theorem call_named_cases (around : Surroundings) (functions : Registry) (name : String)
    (args : List Value) (absent : Engine Value) :
    callNamed around functions name args absent = absent ∨
      ∃ entry ∈ functions, callNamed around functions name args absent =
        (entry.2 args).run around Bindings.none := by
  rw [call_named_found]
  cases found : functions.find? name with
  | none => exact .inl rfl
  | some function => exact .inr ⟨(name, function), mem_of_lookup found, rfl⟩

theorem Channel.write_unchanged {channel : Channel} {text : String}
    (same : channel.write text = channel) : text = "" := by
  obtain ⟨captures, console⟩ := channel
  cases captures with
  | nil =>
      have joined : console ++ text = console := congrArg Channel.console same
      simpa using joined
  | cons top rest =>
      have joined : top ++ text = top := (List.cons.inj (congrArg Channel.captures same)).1
      simpa using joined

def Asking.run (bindings : Bindings) : Asking → Engine Value
  | .value key fallback => bindings.lookup key fallback
  | .call name args => bindings.invoke name args

theorem Asking.run_tells {bindings : Bindings} {replies : Replies} (bound : bindings.Tell replies)
    (asking : Asking) : (asking.run bindings).Tells (asking.account replies) := by
  cases asking with
  | value key fallback => exact bound.lookup key fallback
  | call name args => exact bound.invoke name args

theorem Template.bindings_tell {around : Surroundings} {vicinity : Vicinity}
    (known : around.Tell vicinity) (context : Context) (template : Template) :
    (template.bindings around context).Tell (template.replies vicinity context) where
  lookup _ _ := Engine.tells_answer _
  invoke name args := call_named_tells known name args _ _ (Engine.tells_throw _) template.functions

theorem Registry.Tidy.asking {around : Surroundings} {template : Template}
    (tidy : Registry.Tidy around template.functions) {vicinity : Vicinity}
    (known : around.Tell vicinity) (context : Context) (asking : Asking) (world : World) :
    let reply := asking.account (template.replies vicinity context) world.channel.depth
    reply.text = "" ∧ ∀ fault, reply.outcome = .error fault →
      ∀ name args, asking = .call name args → fault.seen = fault := by
  cases asking with
  | value key fallback => exact ⟨rfl, nofun⟩
  | call name args =>
      intro reply
      have told : ((template.bindings around context).invoke name args).run world =
          (reply.outcome, world.after reply) :=
        (template.bindings_tell known context).invoke name args world
      have settled : ∀ act : Engine Value, act.run world = (reply.outcome, world.after reply) →
          (act.run world).2.channel = world.channel →
          (∀ inner, (act.run world).1 ≠ .error (.forwarded inner)) →
          reply.text = "" ∧ ∀ fault, reply.outcome = .error fault → fault.seen = fault := by
        intro act ran quiet own
        rw [ran] at quiet own
        refine ⟨Channel.write_unchanged quiet, ?_⟩
        intro fault failed
        cases fault with
        | forwarded inner => exact absurd failed (own inner)
        | _ => rfl
      have both : reply.text = "" ∧ ∀ fault, reply.outcome = .error fault → fault.seen = fault := by
        rcases call_named_cases around template.functions name args
            (throw (Registry.missing template.functions name)) with missing | ⟨entry, inside, found⟩
        · apply settled _ told
          · exact congrArg (fun act : Engine Value => (act.run world).2.channel) missing
          · intro inner same
            have ended := congrArg (fun act : Engine Value => (act.run world).1) missing
            cases ended.symm.trans same
        · apply settled _ told
          · exact (congrArg (fun act : Engine Value => (act.run world).2.channel) found).trans
              (tidy.quiet entry inside args world)
          · intro inner same
            have ended := congrArg (fun act : Engine Value => (act.run world).1) found
            exact tidy.own entry inside args world inner (ended.symm.trans same)
      exact ⟨both.1, fun fault failed _ _ _ => both.2 fault failed⟩

/-- Two renders end alike: with the same value and text, or with faults in which any search
finds the same. -/
inductive EndAlike : Except Fault (Value × String) → Except Fault (Value × String) → Prop
  | done (rendition : Value × String) : EndAlike (.ok rendition) (.ok rendition)
  | failed (one other : Fault) (same : ∀ family, one.find? family = other.find? family) :
      EndAlike (.error one) (.error other)

/-- A page of pieces renders as the program of the same pieces does. -/
theorem page_renders_as_program (catalog : Catalog) (files : FileTree) (reach : Nat)
    (pieces : List Piece) (plain : ∀ piece ∈ pieces, piece.Plain) (path : String)
    (kept : files.readText path = .ok (pageOf pieces)) (name other location : Option String)
    (defaults : Fields) (functions : Registry)
    (tidy : functions.Tidy (catalog.within files reach)) (supply : Supply) (world : World)
    (texts : ∀ context, supply.toContext = .ok context → ∀ tag, .ask tag ∈ pieces → ∀ value,
      ((tag.asking.run (Template.bindings (catalog.within files reach) context
        (.mk name (.page path) defaults functions))).run world.opened).1 = .ok value →
      ∃ s, value = .string s) :
    let around := catalog.within files reach
    let page : Template := .mk name (.page path) defaults functions
    let program : Template := .mk other (.program (programOf pieces) location) defaults functions
    EndAlike ((page.run around supply).run world).1 ((program.run around supply).run world).1 ∧
      ((page.run around supply).run world).2 = ((program.run around supply).run world).2 := by
  intro around page program
  let vicinity := catalog.vicinity files reach
  let depth := world.channel.depth
  have known : around.Tell vicinity := catalog.within_tell files reach
  have told : ∀ template : Template, (template.run around supply).run world =
      ((template.account vicinity supply depth).outcome,
        world.after (template.account vicinity supply depth)) :=
    fun template => template.run_tells known supply world
  rw [told page, told program]
  cases shape : supply.toContext with
  | error fault =>
      rw [page.account_of_refused vicinity supply depth fault shape,
        program.account_of_refused vicinity supply depth fault shape]
      exact ⟨.failed _ _ fun family => rfl, rfl⟩
  | ok context =>
      let replies := page.replies vicinity context
      have level : world.opened.channel.depth = depth + 1 := Channel.depth_begin world.channel
      have quiet : Registry.Tidy around page.functions := tidy
      have tidied := fun asking : Asking => quiet.asking known context asking world.opened
      rw [level] at tidied
      have textual : Textual replies (depth + 1) pieces := by
        intro tag inside
        refine ⟨(tidied tag.asking).1, ?_⟩
        intro value answered
        apply texts context shape tag inside value
        have run := tag.asking.run_tells (page.bindings_tell known context) world.opened
        rw [level] at run
        exact (congrArg Prod.fst run).trans answered
      obtain ⟨asked, outcome⟩ := page_account_pieces vicinity files path pieces plain kept textual
      change (page.bodyAccount vicinity context (depth + 1)).asked =
        (program.bodyAccount vicinity context (depth + 1)).asked at asked
      rw [page.account_of_accepted vicinity supply depth context shape,
        program.account_of_accepted vicinity supply depth context shape]
      refine ⟨?_, by simp [World.after, Account.before, Account.enclosed, Account.ended, asked]⟩
      rcases outcome with ⟨done, shown, text⟩ | ⟨tag, fault, steps, inside, refused, failed, shown⟩
      · change (page.bodyAccount vicinity context (depth + 1)).outcome = _ at shown
        change (program.bodyAccount vicinity context (depth + 1)).outcome = _ at done
        change (page.bodyAccount vicinity context (depth + 1)).text =
          (program.bodyAccount vicinity context (depth + 1)).text at text
        simp only [Account.before, Account.enclosed, Account.ended, done, shown, text, reported]
        exact .done _
      · change (page.bodyAccount vicinity context (depth + 1)).outcome = _ at shown
        change (program.bodyAccount vicinity context (depth + 1)).outcome = _ at failed
        simp only [Account.before, Account.enclosed, Account.ended, failed, shown, reported]
        refine .failed _ _ fun family => ?_
        exact Fault.reached?_refused family ("Failed to evaluate template body: " ++ path) steps
          tag.asking fault ((tidied tag.asking).2 fault refused)

theorem outcome_ok {ε α : Type} [DecidableEq α] {outcome : Except ε α} {result : α}
    (shown : (match outcome with
      | .ok other => decide (other = result)
      | .error _ => false) = true) :
    outcome = .ok result := by
  cases outcome with
  | ok other => exact congrArg Except.ok (of_decide_eq_true shown)
  | error fault => cases shown

def greeting : List Piece :=
  [.text "Dear ", .ask (.read ⟨.double, "title"⟩ (some (.text ⟨.single, "friend"⟩))), .text " ",
    .ask (.read ⟨.double, "name"⟩ none), .text ", ",
    .ask (.call ⟨.back, "count"⟩ (.many [.whole true 5, .text ⟨.double, "b"⟩])), .text " items"]

def counting : Registry := [("count", fun args => .done (.string (Nat.repr args.length)))]

theorem counting_tidy (around : Surroundings) : counting.Tidy around where
  quiet entry inside args world := by
    rw [counting, List.mem_singleton] at inside
    subst inside
    rfl
  own entry inside args world inner same := by
    rw [counting, List.mem_singleton] at inside
    subst inside
    cases same

theorem page_renders_as_program_greeting :
    let files : FileTree := { entries := [(["letter"], .file (pageOf greeting).toUTF8)] }
    let around := Catalog.empty.within files 0
    let page : Template := .mk (some "letter") (.page "letter") [] counting
    let program : Template := .mk none (.program (programOf greeting) none) [] counting
    let supply := Supply.value (.object [("name", .string "Ann")])
    ((∀ piece ∈ greeting, piece.Plain) ∧ files.readText "letter" = .ok (pageOf greeting) ∧
      counting.Tidy around) ∧
    EndAlike ((page.run around supply).run World.fresh).1
      ((program.run around supply).run World.fresh).1 ∧
    ((program.run around supply).run World.fresh).1 = .ok (.null, "Dear friend Ann, 2 items") := by
  intro files around page program supply
  have plain : ∀ piece ∈ greeting, piece.Plain := by decide +kernel
  have kept : files.readText "letter" = .ok (pageOf greeting) := outcome_ok (by decide +kernel)
  have tidy := counting_tidy around
  have agreed := page_renders_as_program Catalog.empty files 0 greeting plain "letter" kept
    (some "letter") none none [] counting tidy supply World.fresh
  refine ⟨⟨plain, kept, tidy⟩, (agreed ?_).1, outcome_ok (by decide +kernel)⟩
  intro context shape tag inside value answered
  cases shape
  simp only [greeting, List.mem_cons, Piece.ask.injEq, reduceCtorEq, false_or, or_false,
    List.not_mem_nil] at inside
  rcases inside with rfl | rfl | rfl
  · cases answered
    exact ⟨_, rfl⟩
  · cases answered
    exact ⟨_, rfl⟩
  · cases answered
    exact ⟨_, rfl⟩

/-- Two pages that part from their programs. A number that only an unsigned word holds is a
value for a program, but a page with it cannot be read. Where a function fails with a
stand-in for a missing function, the page puts one more stand-in before it, and a search
looks through one only. -/
theorem page_parts_from_program :
    let large : List Piece := [.ask (.call ⟨.double, "show"⟩ (.one (.whole false (2 ^ 63))))]
    let failing : List Piece := [.ask (.call ⟨.double, "fail"⟩ .nothing)]
    let files : FileTree := { entries := [(["large"], .file (pageOf large).toUTF8),
      (["failing"], .file (pageOf failing).toUTF8)] }
    let functions : Registry := [("fail", fun _ => .fail (.forwarded (.missingFunction "g" []))),
      ("show", fun _ => .done (.string "shown"))]
    let around := Catalog.empty.within files 0
    let page (path : String) : Template := .mk none (.page path) [] functions
    let program (pieces : List Piece) : Template :=
      .mk none (.program (programOf pieces) none) [] functions
    (((program large).run around .nothing).run World.fresh).1 = .ok (.null, "shown") ∧
    (∃ fault, (((page "large").run around .nothing).run World.fresh).1 = .error fault ∧
      fault.causeTexts = ["Failed to evaluate template body: large",
        "Failed to parse '__tera_one_off'",
        "Integer out of bounds: \x609223372036854775808\x60"]) ∧
    (∃ fault, (((program failing).run around .nothing).run World.fresh).1 = .error fault ∧
      (fault.find? .missingFunction).isSome = true) ∧
    ∃ fault, (((page "failing").run around .nothing).run World.fresh).1 = .error fault ∧
      (fault.find? .missingFunction).isSome = false := by
  intro large failing files functions around page program
  refine ⟨outcome_ok (by decide +kernel), ?_, ?_, ?_⟩
  · exact exists_failure (by decide +kernel)
  · exact exists_failure (by decide +kernel)
  · exact exists_failure (by decide +kernel)

end Stencil
