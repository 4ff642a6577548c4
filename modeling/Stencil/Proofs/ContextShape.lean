import Stencil.Proofs.Agreement
import Stencil.Proofs.Fields
import Stencil.Proofs.Rendering

/-!
The shape of a context does not matter, nor does the layer an entry comes from. A
body sees its context through what keys resolve to. Every shape that carries the
same entries resolves alike, and so does the one map that holds the entries over
the defaults. Renders that resolve alike end alike, up to how a failure sums up
the context it had.
-/

namespace Stencil

structure Indexable.Holds (object : Indexable) (fields : Fields) : Prop where
  claims : ∀ key, object.has key = fields.hasKey key
  gives : ∀ key, fields.hasKey key = true → object.get key = fields.get? key

structure Service.Holds (source : Service) (fields : Fields) : Prop where
  claims : ∀ key, source.has key = fields.hasKey key
  gives : ∀ key value, fields.get? key = some value → source.get key = .ok value

/-- The shapes in which a caller may pass the entries of an object. -/
inductive Supply.Carries : Supply → Fields → Prop where
  | object (fields : Fields) : Carries (.value (.object fields)) fields
  | map (fields : Fields) : Carries (.context (.map fields)) fields
  | table (fields : Fields) : Carries (.context (.table fields)) fields
  | indexable (fields : Fields) (object : Indexable) (holds : object.Holds fields) :
      Carries (.context (.indexable object)) fields
  | service (fields : Fields) (source : Service) (holds : source.Holds fields) :
      Carries (.context (.service source)) fields
  | present (fields : Fields) (inner : Supply) (carried : Carries inner fields) :
      Carries (.present inner) fields
  | lent (fields : Fields) (inner : Supply) (carried : Carries inner fields) :
      Carries (.lent inner) fields
  | nothing : Carries .nothing []
  | absent : Carries .absent []
  | null : Carries (.value .null) []
  | empty : Carries (.context .empty) []

namespace Context

theorem find_indexable (object : Indexable) (fields : Fields) (holds : object.Holds fields)
    (key : String) : ((Context.indexable object).find key).2 = .ok (fields.get? key) := by
  cases found : fields.get? key with
  | none =>
      have claimed : object.has key = false := by
        rw [holds.claims key, Fields.hasKey, found]
        rfl
      simp [find, claimed]
  | some value =>
      have known : fields.hasKey key = true := by
        rw [Fields.hasKey, found]
        rfl
      have claimed : object.has key = true := (holds.claims key).trans known
      have given : object.get key = some value := (holds.gives key known).trans found
      simp [find, claimed, given]

theorem find_service (source : Service) (fields : Fields) (holds : source.Holds fields)
    (key : String) : ((Context.service source).find key).2 = .ok (fields.get? key) := by
  cases found : fields.get? key with
  | none =>
      have claimed : source.has key = false := by
        rw [holds.claims key, Fields.hasKey, found]
        rfl
      simp [find, claimed]
  | some value =>
      have claimed : source.has key = true := by
        rw [holds.claims key, Fields.hasKey, found]
        rfl
      simp [find, claimed, holds.gives key value found]

/-- A table is sorted, which changes nothing about what it holds. -/
theorem find_table (fields : Fields) (distinct : fields.keys.Nodup) (key : String) :
    ((Context.table fields).find key).2 = .ok (fields.get? key) := by
  have same : ∀ key, Fields.get? (sortByKey fields) key = fields.get? key :=
    lookup_sort_by_key fields distinct
  apply find_indexable
  constructor
  · intro key
    simp only [Fields.hasKey, same key]
  · intro key _
    exact same key

/-- The context, the defaults and the fallback, in this order. -/
theorem resolve_found (context : Context) (defaults : Fields) (key : String)
    (fallback : Option Value) (found : Option Value)
    (answer : (context.find key).2 = .ok found) :
    (context.resolve defaults key fallback).2 =
      .ok ((found.or (defaults.get? key)).getD (fallback.getD .null)) := by
  obtain ⟨asked, outcome⟩ : ∃ asked, context.find key = (asked, .ok found) :=
    ⟨(context.find key).1, Prod.ext rfl answer⟩
  unfold resolve
  rw [outcome]
  cases found <;> rfl

end Context

theorem Supply.Carries.accepted {supply : Supply} {fields : Fields}
    (carried : supply.Carries fields) (distinct : fields.keys.Nodup) :
    ∃ context, supply.toContext = .ok context ∧
      ∀ key, (context.find key).2 = .ok (fields.get? key) := by
  induction carried with
  | object fields | map fields => exact ⟨.map fields, rfl, fun _ => rfl⟩
  | table fields => exact ⟨.table fields, rfl, Context.find_table fields distinct⟩
  | indexable fields object holds =>
      exact ⟨.indexable object, rfl, Context.find_indexable object fields holds⟩
  | service fields source holds =>
      exact ⟨.service source, rfl, Context.find_service source fields holds⟩
  | present fields inner _ ih | lent fields inner _ ih =>
      obtain ⟨context, accepted, answers⟩ := ih distinct
      exact ⟨context, accepted, answers⟩
  | nothing | absent | null | empty => exact ⟨.empty, rfl, fun _ => rfl⟩

/-- The same value and text, or failures with the same texts all the way down. -/
def AlikeRenders : Except Fault (Value × String) → Except Fault (Value × String) → Prop
  | .ok rendition, .ok other => rendition = other
  | .error fault, .error other => fault.text = other.text ∧ fault.causeTexts = other.causeTexts
  | _, _ => False

theorem reported_alike (site other : RenderSite) (context another : Context)
    (outcome : Except Fault (Value × String)) :
    AlikeRenders (reported site context outcome) (reported other another outcome) := by
  cases outcome with
  | ok rendition => rfl
  | error fault => exact ⟨rfl, rfl⟩

/-- Two contexts over their defaults that no key and no fallback tells apart. -/
def ResolveAlike (context : Context) (defaults : Fields) (other : Context)
    (others : Fields) : Prop :=
  ∀ key fallback,
    (context.resolve defaults key fallback).2 = (other.resolve others key fallback).2

theorem Template.replies_agree {around : Vicinity} (steady : around.Steady)
    (name : Option String) (body : Body) (functions : Registry)
    {context other : Context} {defaults others : Fields}
    (alike : ResolveAlike context defaults other others) :
    ((Template.mk name body defaults functions).replies around context).Agree
      ((Template.mk name body others functions).replies around other) where
  lookup key fallback := fun _ => ⟨rfl, alike key fallback⟩
  invoke depth level called args := call_account_agrees steady called args _ functions depth level

/-- The body and the functions being the same, a body ends the same way wherever
its keys resolve alike. -/
theorem Template.account_alike {around : Vicinity} (steady : around.Steady)
    (name : Option String) (body : Body) (functions : Registry)
    {supply given : Supply} {context other : Context} {defaults others : Fields}
    (accepted : supply.toContext = .ok context) (agreed : given.toContext = .ok other)
    (alike : ResolveAlike context defaults other others) (depth : Nat) :
    AlikeRenders ((Template.mk name body defaults functions).account around supply depth).outcome
      ((Template.mk name body others functions).account around given depth).outcome := by
  have replies := Template.replies_agree steady name body functions alike
  have inner := body.account_agrees steady replies (depth + 1) (depth + 1)
  have captured := Account.agrees_enclosed inner
  obtain ⟨_, same⟩ := captured fun _ => rfl
  rw [Template.account_of_accepted around supply depth _ context accepted,
    Template.account_of_accepted around given depth _ other agreed]
  simp only [Account.before, Account.ended, Template.bodyAccount, Template.body]
  rw [same]
  exact reported_alike _ _ context other _

theorem Template.run_alike (catalog : Catalog) (files : FileTree) (reach : Nat)
    (name : Option String) (body : Body) (functions : Registry)
    {supply given : Supply} {context other : Context} {defaults others : Fields}
    (accepted : supply.toContext = .ok context) (agreed : given.toContext = .ok other)
    (alike : ResolveAlike context defaults other others) (world : World) :
    AlikeRenders
      (((Template.mk name body defaults functions).run (catalog.within files reach)
        supply).run world).1
      (((Template.mk name body others functions).run (catalog.within files reach)
        given).run world).1 := by
  have tell := catalog.within_tell files reach
  have steady := catalog.vicinity_steady files reach
  rw [Template.run_tells tell supply _ world, Template.run_tells tell given _ world]
  exact Template.account_alike steady name body functions accepted agreed alike _

/-- The same entries render alike in every shape, and alike once they are laid on
the defaults, where an entry that is null hides a default as any other entry does. -/
theorem render_alike_in_every_shape (catalog : Catalog) (files : FileTree) (reach : Nat)
    (name : Option String) (body : Body) (defaults : Fields) (functions : Registry)
    (fields : Fields) (distinct : fields.keys.Nodup) (supply : Supply)
    (carried : supply.Carries fields) (world : World) :
    let outcome := fun (under : Fields) (given : Supply) =>
      (((Template.mk name body under functions).run (catalog.within files reach)
        given).run world).1
    let layered := defaults.overlay fields
    (∀ other : Supply, other.Carries fields →
      AlikeRenders (outcome defaults supply) (outcome defaults other)) ∧
    AlikeRenders (outcome defaults supply) (outcome [] (.value (.object layered))) ∧
    ∀ key, layered.get? key = (fields.get? key).or (defaults.get? key) := by
  intro outcome layered
  have layers : ∀ key, layered.get? key = (fields.get? key).or (defaults.get? key) :=
    fun key => Fields.get?_overlay defaults fields distinct key
  obtain ⟨context, accepted, answers⟩ := carried.accepted distinct
  refine ⟨?_, ?_, layers⟩
  · intro other carries
    obtain ⟨another, agreed, replies⟩ := carries.accepted distinct
    apply Template.run_alike catalog files reach name body functions accepted agreed
    intro key fallback
    rw [context.resolve_found defaults key fallback _ (answers key),
      another.resolve_found defaults key fallback _ (replies key)]
  · apply Template.run_alike catalog files reach name body functions accepted rfl
    intro key fallback
    rw [context.resolve_found defaults key fallback _ (answers key),
      (Context.map layered).resolve_found [] key fallback (layered.get? key) rfl, layers key]
    have bare : Fields.get? [] key = none := rfl
    rw [bare, Option.or_none]

def nullService : Service := ⟨"store", fun key => key == "x", fun _ => .ok .null⟩

theorem null_service_holds : nullService.Holds [("x", .null)] where
  claims key := by
    rw [Fields.hasKey, Fields.get?, lookup_entry]
    by_cases same : key = "x" <;> simp [nullService, same]
  gives key value found := by
    rw [Fields.get?, lookup_entry] at found
    by_cases same : key = "x"
    · rw [if_pos same] at found
      simpa [nullService] using found
    · rw [if_neg same] at found
      cases found

theorem render_alike_null_service :
    let fields : Fields := [("x", .null)]
    let supply : Supply := .present (.context (.service nullService))
    let outcome := fun (under : Fields) (given : Supply) =>
      (((Template.mk none (.program (.lookup "x" (some (.bool true)) .ofExcept) none) under
        []).run (Catalog.empty.within FileTree.empty 0) given).run World.fresh).1
    (fields.keys.Nodup ∧ supply.Carries fields) ∧
    AlikeRenders (outcome [("x", .bool false)] supply)
      (outcome [("x", .bool false)] (.value (.object fields))) ∧
    AlikeRenders (outcome [("x", .bool false)] supply) (outcome [] (.value (.object fields))) ∧
    outcome [("x", .bool false)] supply = .ok (.null, "") := by
  intro fields supply outcome
  have distinct : fields.keys.Nodup := by decide
  have carried : supply.Carries fields :=
    .present fields _ (.service fields nullService null_service_holds)
  obtain ⟨shapes, layers, _⟩ := render_alike_in_every_shape Catalog.empty FileTree.empty 0
    none (.program (.lookup "x" (some (.bool true)) .ofExcept) none) [("x", .bool false)] []
    fields distinct supply carried World.fresh
  exact ⟨⟨distinct, carried⟩, shapes _ (.object fields), layers, rfl⟩

end Stencil
