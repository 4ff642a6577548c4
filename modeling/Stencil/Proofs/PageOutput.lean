import Mathlib.Data.List.Forall2
import Stencil.Proofs.PieceAgreement
import Stencil.Proofs.RefusedRequest
import Stencil.Proofs.RenderFailure

/-!
What a page puts out. The functions that it calls write at once, while its own text is kept until
it is whole and is written last, in one piece. A page that fails puts out nothing of its own, and
a file that is no page fails before anything is asked for.
-/

namespace Stencil

/-- One request of a run, with the worlds before and after it. -/
structure Turn where
  asking : Asking
  before : World
  reply : Except Fault Value
  after : World

namespace Turn

def exchange (turn : Turn) : Exchange := ⟨turn.asking, turn.reply⟩

def isCall (turn : Turn) : Bool :=
  match turn.asking with
  | .value .. => false
  | .call .. => true

/-- All that has been written from the request to the reply. -/
def Writes (turn : Turn) (text : String) : Prop :=
  turn.after.channel = turn.before.channel.write text

end Turn

def Bindings.turn (bindings : Bindings) (asking : Asking) (world : World) : Turn :=
  let answered := (asking.run bindings).run world
  ⟨asking, world, answered.1, answered.2⟩

def Dialog.turns {α : Type} (bindings : Bindings) : Dialog α → World → List Turn
  | .done _, _ => []
  | .lookup key fallback next, world =>
      let turn := bindings.turn (.value key fallback) world
      turn :: (next turn.reply).turns bindings turn.after
  | .invoke name args next, world =>
      let turn := bindings.turn (.call name args) world
      turn :: (next turn.reply).turns bindings turn.after

def pageTurns (files : FileTree) (path : String) (bindings : Bindings) (world : World) :
    List Turn :=
  match files.readText path with
  | .error _ => []
  | .ok source => (Markup.render source).turns bindings world

/-- Reading leaves the channel as it is, and a call does no more to it than to write a text. -/
structure Bindings.OnlyWrite (bindings : Bindings) : Prop where
  lookup : ∀ key fallback world,
    ((bindings.lookup key fallback).run world).2.channel = world.channel
  invoke : ∀ name args world, ∃ text,
    ((bindings.invoke name args).run world).2.channel = world.channel.write text

theorem Engine.channel_answer {α : Type} (reply : List Question × Except Fault α)
    (world : World) : ((answer reply).run world).2.channel = world.channel := by
  obtain ⟨asked, outcome⟩ := reply
  cases outcome <;> rfl

theorem Template.bindings_only_write (catalog : Catalog) (files : FileTree) (reach : Nat)
    (context : Context) (template : Template) :
    (template.bindings (catalog.within files reach) context).OnlyWrite where
  lookup _ _ world := Engine.channel_answer _ world
  invoke name args world := by
    have told := (template.bindings_tell (catalog.within_tell files reach) context).invoke name args
    rw [told world]
    exact ⟨_, rfl⟩

/-- Turn after turn, the channel has what the calls have written, in their order. -/
theorem Dialog.run_turns {α : Type} {bindings : Bindings} (only : bindings.OnlyWrite)
    (dialog : Dialog α) (world : World) :
    ∃ answer later texts, (dialog.run bindings).run world = (.ok answer, later) ∧
      dialog.Comes ((dialog.turns bindings world).map Turn.exchange) answer ∧
      List.Forall₂ Turn.Writes ((dialog.turns bindings world).filter Turn.isCall) texts ∧
      later.channel = world.channel.write (String.join texts) := by
  induction dialog generalizing world with
  | done answer =>
      exact ⟨answer, world, [], rfl, .done answer, .nil, (Channel.write_nothing _).symm⟩
  | lookup key fallback next ih =>
      let turn := bindings.turn (.value key fallback) world
      obtain ⟨answer, later, texts, ran, comes, writes, left⟩ := ih turn.reply turn.after
      refine ⟨answer, later, texts, ?_, .lookup key fallback turn.reply comes, writes, ?_⟩
      · rw [run, Engine.run_attempted]
        exact ran
      · rw [left]
        exact congrArg (fun channel => channel.write (String.join texts))
          (only.lookup key fallback world)
  | invoke name args next ih =>
      let turn := bindings.turn (.call name args) world
      obtain ⟨text, wrote⟩ := only.invoke name args world
      obtain ⟨answer, later, texts, ran, comes, writes, left⟩ := ih turn.reply turn.after
      have here : turn.Writes text := wrote
      refine ⟨answer, later, text :: texts, ?_, .invoke name args turn.reply comes,
        .cons here writes, ?_⟩
      · rw [run, Engine.run_attempted]
        exact ran
      · rw [left, here, Channel.write_twice, String.join_cons]
        rfl

inductive Unreadable (files : FileTree) (path : String) : Fault → Prop
  | unread (error : FileError) (refused : files.readText path = .error error) :
      Unreadable files path (.layered ("Failed to read template body: " ++ path) (.file error))
  | unparsed (source : String) (cause : Fault) (read : files.readText path = .ok source)
      (mistaken : Markup.bind source = .error cause) :
      Unreadable files path (.layered ("Failed to evaluate template body: " ++ path) cause)

section

variable {files : FileTree} {path : String}

/-- Whatever is bound, a file that is no page fails and has done nothing. -/
theorem Unreadable.run {fault : Fault} (unreadable : Unreadable files path fault)
    (bindings : Bindings) (world : World) :
    (runPage files path bindings).run world = (.error fault, world) := by
  cases unreadable with
  | unread error refused =>
      rw [runPage, refused]
      rfl
  | unparsed source cause read mistaken =>
      simp only [runPage, read, Markup.render, mistaken]
      rfl

theorem Unreadable.turns {fault : Fault} (unreadable : Unreadable files path fault)
    (bindings : Bindings) (world : World) : pageTurns files path bindings world = [] := by
  cases unreadable with
  | unread error refused => rw [pageTurns, refused]
  | unparsed source cause read mistaken =>
      simp only [pageTurns, read, Markup.render, mistaken]
      rfl

def pageEnding (path : String) (later : World) : Except Fault String → Except Fault Value × World
  | .ok text => (.ok .null, ⟨later.channel.write text, later.asked⟩)
  | .error fault => (.error (.layered ("Failed to evaluate template body: " ++ path) fault), later)

theorem run_page_ended {source : String} (read : files.readText path = .ok source)
    {bindings : Bindings} {world later : World} {outcome : Except Fault String}
    (ran : ((Markup.render source).run bindings).run world = (.ok outcome, later)) :
    (runPage files path bindings).run world = pageEnding path later outcome := by
  simp only [runPage, read]
  rw [Engine.run_bind, ran]
  cases outcome <;> rfl

end

/-- What a page has written in the end, of which others have written a part: that alone if it
fails, and its whole text behind it if it does not. -/
def PutOut (files : FileTree) (path : String) (turns : List Turn) (others written : String) :
    Except Fault Value → Prop
  | .error _ => written = others
  | .ok value => value = .null ∧ ∃ source rendered, files.readText path = .ok source ∧
      (Markup.render source).Comes (turns.map Turn.exchange) (.ok rendered) ∧
      written = others ++ rendered

theorem page_puts_out {bindings : Bindings} (only : bindings.OnlyWrite) (files : FileTree)
    (path : String) (world : World) :
    let run := (runPage files path bindings).run world
    let turns := pageTurns files path bindings world
    ∃ texts written, List.Forall₂ Turn.Writes (turns.filter Turn.isCall) texts ∧
      run.2.channel = world.channel.write written ∧
      PutOut files path turns (String.join texts) written run.1 := by
  intro run turns
  cases read : files.readText path with
  | error error =>
      have unreadable : Unreadable files path _ := .unread error read
      have nothing : turns = [] := unreadable.turns bindings world
      have failed : run = (.error _, world) := unreadable.run bindings world
      rw [nothing, failed]
      exact ⟨[], "", .nil, (Channel.write_nothing _).symm, rfl⟩
  | ok source =>
      obtain ⟨outcome, later, texts, ran, comes, writes, left⟩ :=
        (Markup.render source).run_turns only world
      have same : turns = (Markup.render source).turns bindings world := by
        simp only [turns, pageTurns, read]
      have ended : run = pageEnding path later outcome := run_page_ended read ran
      rw [same, ended]
      cases outcome with
      | error fault => exact ⟨texts, String.join texts, writes, left, rfl⟩
      | ok rendered =>
          refine ⟨texts, String.join texts ++ rendered, writes, ?_, rfl, source, rendered, read,
            comes, rfl⟩
          rw [← Channel.write_twice, ← left]
          rfl

theorem page_heeds {bindings : Bindings} (only : bindings.OnlyWrite) {files : FileTree}
    {path source : String} {book : Markup.Book} (read : files.readText path = .ok source)
    (bound : Markup.bind source = .ok book) (world : World) :
    book.Heeds ((pageTurns files path bindings world).map Turn.exchange)
      (∃ fault, ((runPage files path bindings).run world).1 = .error fault) := by
  obtain ⟨outcome, later, texts, ran, comes, _, _⟩ := (Markup.render source).run_turns only world
  have same : pageTurns files path bindings world =
      (Markup.render source).turns bindings world := by
    simp only [pageTurns, read]
  rw [same, run_page_ended read ran]
  apply (Markup.render_heeds bound comes).mono
  rintro ⟨fault, rfl⟩
  exact ⟨_, rfl⟩

/-- A render of a page gives back what has been written under its capture. -/
theorem page_rendered (around : Surroundings) (page : Template) {path : String}
    (paged : page.body = .page path) {supply : Supply} {context : Context}
    (accepted : supply.toContext = .ok context) (world : World) {written : String} :
    let run := (runPage around.files path (page.bindings around context)).run world.opened
    run.2.channel = world.opened.channel.write written →
    ((page.run around supply).run world).1 =
      reported page.site context (run.1.map fun value => (value, written)) := by
  intro run wrote
  have released := Channel.release_begun world.channel written
  have body : page.body.run around (page.bindings around context) =
      runPage around.files path (page.bindings around context) := by
    rw [paged]
    rfl
  have text : (run.2.channel.release world.channel.begin.1).1 = written := by
    rw [wrote]
    exact congrArg Prod.fst released
  rw [page.run_within around supply world context accepted, body, Engine.run_captured]
  dsimp only
  rw [text]
  cases run.1 <;> rfl

/-- When the body of a page has run, the channel has what the functions have written, in the
order of the calls, and behind it the whole text of the page if it has not failed; that is the
result of the render. A request that is refused ends the page, unless it is made by a variable
that the page tests for truth. A file that cannot be read or is no page fails, whatever is bound,
and nothing has been asked for. -/
theorem page_writes_once (catalog : Catalog) (files : FileTree) (reach : Nat)
    (name : Option String) (path : String) (defaults : Fields) (functions : Registry)
    (context : Context) (world : World) :
    let around := catalog.within files reach
    let page : Template := .mk name (.page path) defaults functions
    let bindings := page.bindings around context
    let run := (runPage files path bindings).run world.opened
    let turns := pageTurns files path bindings world.opened
    (∃ texts written, List.Forall₂ Turn.Writes (turns.filter Turn.isCall) texts ∧
      run.2.channel = world.opened.channel.write written ∧
      PutOut files path turns (String.join texts) written run.1 ∧
      ∀ supply, supply.toContext = .ok context → ((page.run around supply).run world).1 =
        reported page.site context (run.1.map fun value => (value, written))) ∧
    (∀ source book, files.readText path = .ok source → Markup.bind source = .ok book →
      book.Heeds (turns.map Turn.exchange) (∃ fault, run.1 = .error fault) ∧
      (book.testsSilently = true → ∀ turn ∈ turns, ∀ fault, turn.reply = .error fault →
        ∃ raised, run.1 = .error raised)) ∧
    ∀ fault, Unreadable files path fault → turns = [] ∧ ∀ others anywhere,
      (runPage files path others).run anywhere = (.error fault, anywhere) := by
  intro around page bindings run turns
  have only : bindings.OnlyWrite := page.bindings_only_write catalog files reach context
  refine ⟨?_, ?_, ?_⟩
  · obtain ⟨texts, written, writes, wrote, putOut⟩ :=
      page_puts_out only files path world.opened
    refine ⟨texts, written, writes, wrote, putOut, ?_⟩
    intro supply accepted
    exact page_rendered around page rfl accepted world wrote
  · intro source book read bound
    have heeds := page_heeds only read bound world.opened
    refine ⟨heeds, ?_⟩
    intro silent turn member fault refused
    obtain ⟨earlier, later, split⟩ := List.append_of_mem member
    have parts : turns.map Turn.exchange = earlier.map Turn.exchange ++
        ⟨turn.asking, .error fault⟩ :: later.map Turn.exchange := by
      rw [split, List.map_append, List.map_cons, Turn.exchange, refused]
    exact (heeds.last silent parts).2
  · intro fault unreadable
    exact ⟨unreadable.turns bindings world.opened, unreadable.run⟩

def testingPage : String :=
  "\x7b% if x | default(value=f(name=\"boom\")) %\x7da\x7b% else %\x7db\x7b% endif %\x7d"

def testingFiles : FileTree := FileTree.empty.addEntry "p" (.file testingPage.toUTF8)

def testingTemplate : Template :=
  .mk none (.page "p") [] [("boom", fun _ => .fail (.message "no"))]

/-- The call fails, and the page is written all the same. -/
theorem failed_call_written :
    let around := Catalog.empty.within testingFiles 0
    let turns := pageTurns testingFiles "p" (testingTemplate.bindings around .empty)
      World.fresh.opened
    (turns.map fun turn => (turn.isCall, turn.reply.toOption)) = [(true, none)] ∧
    (((testingTemplate.run around .nothing).run World.fresh).1.map Prod.snd).toOption =
      some "b" := by
  decide +kernel

end Stencil
