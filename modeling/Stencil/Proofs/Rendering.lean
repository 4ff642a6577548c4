import Stencil.Proofs.Agreement
import Stencil.Proofs.Telling

/-!
What a render is to the code around it. It leaves the output channel as it found
it, whatever its body does and however it ends, and its result is that of the
direct style: the body's own text and value, or the body's own error. Of the
captures around it a render can learn no more than their number.
-/

namespace Stencil

theorem Template.account_of_refused (around : Vicinity) (supply : Supply) (depth : Nat)
    (template : Template) (fault : Fault) (refused : supply.toContext = .error fault) :
    template.account around supply depth = .ended (.error (.setup template.site fault)) := by
  obtain ⟨name, body, defaults, functions⟩ := template
  simp only [Template.account, refused]
  rfl

theorem Template.account_of_accepted (around : Vicinity) (supply : Supply) (depth : Nat)
    (template : Template) (context : Context) (accepted : supply.toContext = .ok context) :
    template.account around supply depth =
      (template.bodyAccount around context (depth + 1)).enclosed.before
        (.ended (reported template.site context
          (template.bodyAccount around context (depth + 1)).enclosed.outcome)) := by
  obtain ⟨name, body, defaults, functions⟩ := template
  simp only [Template.account, accepted]
  rfl

theorem Template.account_text (around : Vicinity) (supply : Supply) (depth : Nat)
    (template : Template) : (template.account around supply depth).text = "" := by
  cases shape : supply.toContext with
  | error fault =>
      rw [template.account_of_refused around supply depth fault shape]
      rfl
  | ok context =>
      rw [template.account_of_accepted around supply depth context shape]
      rfl

theorem reported_ok_iff (site : RenderSite) (context : Context) (account : Account Value)
    (value : Value) (text : String) :
    reported site context account.enclosed.outcome = .ok (value, text) ↔
      account.outcome = .ok value ∧ account.text = text := by
  cases ended : account.outcome <;> simp [reported, Account.enclosed, ended]

theorem reported_error_iff (site : RenderSite) (context : Context) (account : Account Value)
    (fault : Fault) :
    reported site context account.enclosed.outcome = .error fault ↔
      ∃ raised, account.outcome = .error raised ∧
        fault = .evaluation site context.summary raised := by
  cases ended : account.outcome <;> simp [reported, Account.enclosed, ended, eq_comm]

/-- A name calls the first function that it has. -/
theorem call_named_found (around : Surroundings) (functions : Registry) (name : String)
    (args : List Value) (absent : Engine Value) :
    callNamed around functions name args absent =
      match functions.find? name with
      | some function => (function args).run around Bindings.none
      | none => absent := by
  induction functions with
  | nil => rfl
  | cons entry rest ih =>
      obtain ⟨known, function⟩ := entry
      rw [callNamed, Registry.find?, List.lookup_cons]
      cases name == known with
      | true => rfl
      | false => exact ih

/-- Whatever a body writes, captures, calls and renders, and however it ends, the
levels that were active before the render are there after it with the same texts,
and nothing more is on the console. -/
theorem render_leaves_channel (catalog : Catalog) (files : FileTree) (reach : Nat)
    (template : Template) (supply : Supply) (world : World) :
    ((template.run (catalog.within files reach) supply).run world).2.channel =
      world.channel := by
  have told := template.run_tells (catalog.within_tell files reach) supply world
  have silent := template.account_text (catalog.vicinity files reach) supply world.channel.depth
  rw [told]
  simp only [World.after, silent, Channel.write_nothing]

/-- A render succeeds with the value and the text of its body's account, and
fails with the error of that account. In another world it ends alike unless the
body has read the depth and finds another one. -/
theorem render_follows_account (catalog : Catalog) (files : FileTree) (reach : Nat)
    (template : Template) (supply : Supply) (world : World) :
    let outcome := fun around : World =>
      ((template.run (catalog.within files reach) supply).run around).1
    match supply.toContext with
    | .error fault => outcome world = .error (.setup template.site fault)
    | .ok context =>
        let body := template.bodyAccount (catalog.vicinity files reach) context
          (world.channel.depth + 1)
        (∀ value text, outcome world = .ok (value, text) ↔
          body.outcome = .ok value ∧ body.text = text) ∧
        (∀ fault, outcome world = .error fault ↔ ∃ raised, body.outcome = .error raised ∧
          fault = .evaluation template.site context.summary raised) ∧
        ∀ other : World, outcome other = outcome world ∨
          body.sawDepth = true ∧ other.channel.depth ≠ world.channel.depth := by
  intro outcome
  let around := catalog.vicinity files reach
  have told : ∀ world : World,
      outcome world = (template.account around supply world.channel.depth).outcome := by
    intro world
    exact congrArg Prod.fst (template.run_tells (catalog.within_tell files reach) supply world)
  cases shape : supply.toContext with
  | error fault =>
      have refused := template.account_of_refused around supply world.channel.depth fault shape
      exact (told world).trans (congrArg Account.outcome refused)
  | ok context =>
      dsimp only
      let body := template.bodyAccount around context (world.channel.depth + 1)
      have accepted :=
        template.account_of_accepted around supply world.channel.depth context shape
      have ended : outcome world = reported template.site context body.enclosed.outcome :=
        (told world).trans (congrArg Account.outcome accepted)
      refine ⟨?_, ?_, ?_⟩
      · intro value text
        rw [ended]
        exact reported_ok_iff template.site context body value text
      · intro fault
        rw [ended]
        exact reported_error_iff template.site context body fault
      · intro other
        have agreed := template.account_agrees (catalog.vicinity_steady files reach) supply
          world.channel.depth other.channel.depth
        by_cases differs : body.sawDepth = true ∧ other.channel.depth ≠ world.channel.depth
        · exact Or.inr differs
        · left
          have same : (template.account around supply world.channel.depth).sawDepth = true →
              world.channel.depth = other.channel.depth := by
            intro seen
            rw [accepted] at seen
            have saw : body.sawDepth = true := by
              simpa [Account.before, Account.enclosed, Account.ended] using seen
            by_cases level : world.channel.depth = other.channel.depth
            · exact level
            · exact absurd ⟨saw, fun equal => level equal.symm⟩ differs
          rw [told other, told world]
          exact (agreed same).2.symm

end Stencil
