import Stencil.Markup.Evaluation

/-!
What goes wrong in a page by itself. A variable that is not there, a filter, a test
or an operation that does not fit its values: each of these failures is one message
with nothing behind it. So a page has a failure with causes from outside only.
-/

namespace Stencil.Markup

variable {α β : Type}

/-- Fails, if at all, with one message and no cause. -/
def Plain (outcome : Except Fault α) : Prop :=
  ∀ fault, outcome = .error fault → ∃ text, fault = .message text

theorem plain_ok (result : α) : Plain (.ok result) := by
  intro fault failed
  cases failed

theorem plain_message (text : String) : Plain (.error (.message text) : Except Fault α) := by
  intro fault failed
  cases failed
  exact ⟨text, rfl⟩

theorem plain_bind {outcome : Except Fault α} {next : α → Except Fault β} (first : Plain outcome)
    (follows : ∀ result, Plain (next result)) : Plain (outcome >>= next) := by
  cases outcome with
  | ok result => exact follows result
  | error fault =>
      intro raised failed
      cases failed
      exact first fault rfl

theorem plain_map {outcome : Except Fault α} (change : α → β) (first : Plain outcome) :
    Plain (outcome.map change) := by
  cases outcome with
  | ok result => exact plain_ok (change result)
  | error fault =>
      intro raised failed
      cases failed
      exact first fault rfl

theorem plain_map_m (items : List α) {step : α → Except Fault β}
    (steps : ∀ item, Plain (step item)) : Plain (items.mapM step) := by
  induction items with
  | nil => exact plain_ok []
  | cons item rest ih =>
      rw [List.mapM_cons]
      apply plain_bind (steps item)
      intro result
      apply plain_bind ih
      intro results
      exact plain_ok (result :: results)

theorem plain_lookup (scope : Scope) (path : String) : Plain (scope.lookup path) := by
  unfold Scope.lookup
  split
  · exact plain_ok _
  · exact plain_message _

namespace Filter

theorem plain_unfit (filter : String) (arg : Option String) (v : Value) (expected : String) :
    Plain (unfit filter arg v expected : Except Fault α) := by
  unfold unfit
  split <;> exact plain_message _

theorem plain_text_of (filter : String) (arg : Option String) (v : Value) :
    Plain (textOf filter arg v) := by
  unfold textOf
  split
  · exact plain_ok _
  · exact plain_unfit _ _ _ _

theorem plain_items_of (filter : String) (v : Value) : Plain (itemsOf filter v) := by
  unfold itemsOf
  split
  · exact plain_ok _
  · exact plain_unfit _ _ _ _

theorem plain_count_of (filter arg : String) (v : Value) : Plain (countOf filter arg v) := by
  unfold countOf
  split
  · split
    · exact plain_ok _
    · exact plain_unfit _ _ _ _
  · exact plain_unfit _ _ _ _

theorem plain_position_of (filter arg : String) (v : Value) :
    Plain (positionOf filter arg v) := by
  unfold positionOf
  split
  · exact plain_ok _
  · exact plain_unfit _ _ _ _

theorem plain_arg_text (filter arg : String) (args : Args) (missing : String) :
    Plain (argText filter arg args missing) := by
  unfold argText
  split
  · exact plain_message _
  · exact plain_text_of _ _ _

theorem plain_map_text (filter : String) (change : String → String) (v : Value) :
    Plain (mapText filter change v) := by
  apply plain_bind (plain_text_of filter none v)
  intro s
  exact plain_ok _

theorem plain_length (v : Value) : Plain (length v) := by
  unfold length
  split
  · exact plain_ok _
  · exact plain_ok _
  · exact plain_ok _
  · exact plain_message _

theorem plain_reverse (v : Value) : Plain (reverse v) := by
  unfold reverse
  split
  · exact plain_ok _
  · exact plain_ok _
  · exact plain_message _

theorem plain_nth (v : Value) (args : Args) : Plain (nth v args) := by
  apply plain_bind (plain_items_of "nth" v)
  intro items
  split
  · exact plain_ok _
  · split
    · exact plain_message _
    · apply plain_bind (plain_count_of "nth" "n" _)
      intro count
      exact plain_ok _

theorem plain_join (v : Value) (args : Args) : Plain (join v args) := by
  apply plain_bind (plain_items_of "join" v)
  intro items
  dsimp only
  split
  · exact plain_ok _
  · apply plain_bind (plain_map unescapeBreaks (plain_text_of _ _ _))
    intro separator
    exact plain_ok _

theorem plain_replace (v : Value) (args : Args) : Plain (replace v args) := by
  apply plain_bind (plain_text_of _ _ _)
  intro s
  apply plain_bind (plain_arg_text _ _ _ _)
  intro pattern
  apply plain_bind (plain_arg_text _ _ _ _)
  intro replacement
  exact plain_ok _

theorem plain_split (v : Value) (args : Args) : Plain (split v args) := by
  apply plain_bind (plain_text_of _ _ _)
  intro s
  apply plain_bind (plain_arg_text _ _ _ _)
  intro pattern
  exact plain_ok _

theorem plain_slice (v : Value) (args : Args) : Plain (slice v args) := by
  apply plain_bind (plain_items_of "slice" v)
  intro items
  dsimp only
  split
  · exact plain_ok _
  · apply plain_bind
    · split
      · exact plain_ok _
      · exact plain_map _ (plain_position_of _ _ _)
    · intro start
      apply plain_bind
      · split
        · exact plain_ok _
        · exact plain_map _ (plain_position_of _ _ _)
      · intro finish
        split
        · exact plain_ok _
        · split <;> split <;> exact plain_ok _

theorem plain_concat (v : Value) (args : Args) : Plain (concat v args) := by
  apply plain_bind (plain_items_of "concat" v)
  intro items
  split
  · exact plain_message _
  · exact plain_ok _
  · exact plain_ok _

theorem plain_get (v : Value) (args : Args) : Plain (get v args) := by
  apply plain_bind (plain_arg_text _ _ _ _)
  intro key
  split
  · split
    · exact plain_ok _
    · exact plain_ok _
    · exact plain_message _
  · exact plain_message _

theorem plain_abs (v : Value) : Plain (abs v) := by
  unfold abs
  split
  · exact plain_ok _
  · exact plain_ok _
  · exact plain_message _

theorem plain_sort_key (first v : Value) : Plain (sortKey first v) := by
  unfold sortKey
  split
  · exact plain_message _
  · exact plain_message _
  all_goals
    split
    · exact plain_ok _
    · exact plain_message _

theorem plain_field (item : Value) (field : String) :
    Plain (if field.isEmpty then .ok item
      else match point item field with
        | some found => .ok found
        | none => fail ("attribute '" ++ field ++ "' does not reference a field")) := by
  split
  · exact plain_ok _
  · split
    · exact plain_ok _
    · exact plain_message _

theorem plain_keyed (part : Value → Except Fault Value) (parts : ∀ item, Plain (part item))
    (head : Value) (items : List Value) :
    Plain (do
      let first ← part head
      let keyed ← items.mapM fun item => do
        return (← sortKey first (← part item), item)
      return Value.array ((keyed.mergeSort fun a b => a.1.atMost b.1).map Prod.snd)) := by
  apply plain_bind (parts head)
  intro first
  have keys : ∀ item, Plain (do return (← sortKey first (← part item), item)) := by
    intro item
    apply plain_bind (parts item)
    intro found
    apply plain_bind (plain_sort_key first found)
    intro key
    exact plain_ok _
  apply plain_bind (plain_map_m items keys)
  intro keyed
  exact plain_ok _

theorem plain_sort (v : Value) (args : Args) : Plain (sort v args) := by
  apply plain_bind (plain_items_of "sort" v)
  intro items
  split
  · exact plain_ok _
  · dsimp only
    split
    · exact plain_keyed _ (fun item => plain_field item "") _ _
    · apply plain_bind (plain_text_of _ _ _)
      intro field
      exact plain_keyed _ (fun item => plain_field item field) _ _

/-- Of every filter of pages. -/
theorem plain_find (name : String) (filter : Value → Args → Except Fault Value)
    (found : find? name = some filter) (v : Value) (args : Args) : Plain (filter v args) := by
  unfold find? at found
  split at found
  case h_1 | h_2 | h_3 | h_4 | h_5 => cases found; exact plain_map_text _ _ v
  case h_6 => cases found; exact plain_length v
  case h_7 => cases found; exact plain_reverse v
  case h_8 | h_9 =>
      cases found
      apply plain_bind (plain_items_of _ v)
      intro items
      exact plain_ok _
  case h_10 => cases found; exact plain_nth v args
  case h_11 => cases found; exact plain_join v args
  case h_12 => cases found; exact plain_replace v args
  case h_13 => cases found; exact plain_split v args
  case h_14 => cases found; exact plain_slice v args
  case h_15 => cases found; exact plain_concat v args
  case h_16 => cases found; exact plain_get v args
  case h_17 => cases found; exact plain_abs v
  case h_18 => cases found; exact plain_ok _
  case h_19 => cases found; exact plain_sort v args
  case h_20 => cases found

end Filter

namespace Check

theorem plain_fail (name text : String) : Plain (fail name text : Except Fault α) :=
  plain_message _

theorem plain_at_most_args (name : String) (most : Nat) (args : List Value) :
    Plain (atMostArgs name most args) := by
  unfold atMostArgs
  split
  · exact plain_ok _
  · split <;> exact plain_fail _ _

theorem plain_defined (name : String) (v : Option Value) : Plain (defined name v) := by
  unfold defined
  split
  · exact plain_ok _
  · exact plain_fail _ _

theorem plain_text_of (name part : String) (v : Option Value) : Plain (textOf name part v) := by
  unfold textOf
  split
  · exact plain_ok _
  · exact plain_fail _ _

theorem plain_alone (name : String) (v : Option Value) (args : List Value) :
    Plain (alone name v args) := by
  apply plain_bind (plain_at_most_args name 0 args)
  intro _
  exact plain_defined name v

theorem plain_is_odd (v : Value) : Plain (isOdd v) := by
  cases v with
  | number n => exact plain_ok _
  | null | bool _ | string _ | array _ | object _ => exact plain_fail _ _

theorem plain_divides (v : Value) (args : List Value) : Plain (divides v args) := by
  unfold divides
  split
  · split
    · split <;> exact plain_ok _
    · exact plain_fail _ _
  · exact plain_fail _ _

theorem plain_contains (v : Value) (args : List Value) : Plain (contains v args) := by
  unfold contains
  split
  · apply plain_bind (plain_text_of _ _ _)
    intro part
    exact plain_ok _
  · split <;> exact plain_ok _
  · apply plain_bind (plain_text_of _ _ _)
    intro key
    exact plain_ok _
  · exact plain_message _

theorem plain_texts (name : String) (v : Option Value) (args : List Value) :
    Plain (texts name v args) := by
  apply plain_bind (plain_at_most_args name 1 args)
  intro _
  apply plain_bind (plain_defined name v)
  intro value
  apply plain_bind (plain_text_of _ _ _)
  intro s
  apply plain_bind (plain_text_of _ _ _)
  intro part
  exact plain_ok _

/-- Of every test of pages. -/
theorem plain_find (name : String) (check : Option Value → List Value → Except Fault Bool)
    (found : find? name = some check) (v : Option Value) (args : List Value) :
    Plain (check v args) := by
  unfold find? at found
  split at found
  case h_1 | h_2 =>
      cases found
      apply plain_bind (plain_at_most_args _ 0 args)
      intro _
      exact plain_ok _
  case h_3 | h_4 | h_5 | h_6 =>
      cases found
      apply plain_bind (plain_alone _ v args)
      intro value
      split <;> exact plain_ok _
  case h_7 =>
      cases found
      apply plain_bind (plain_alone "odd" v args)
      intro value
      exact plain_is_odd value
  case h_8 =>
      cases found
      apply plain_bind (plain_alone "even" v args)
      intro value
      apply plain_bind (plain_is_odd value)
      intro odd
      exact plain_ok _
  case h_9 =>
      cases found
      apply plain_bind (plain_at_most_args _ 1 args)
      intro _
      apply plain_bind (plain_defined _ v)
      intro value
      exact plain_divides value args
  case h_10 | h_11 =>
      cases found
      apply plain_bind (plain_texts _ v args)
      intro found
      exact plain_ok _
  case h_12 =>
      cases found
      apply plain_bind (plain_at_most_args _ 1 args)
      intro _
      apply plain_bind (plain_defined _ v)
      intro value
      exact plain_contains value args
  case h_13 => cases found

end Check

theorem plain_refuse (arg label : String) (v : Value) : Plain (countArg.refuse arg label v) :=
  plain_message _

theorem plain_count_arg (arg label : String) (args : Fields) (otherwise : Option Nat)
    (missing : String) : Plain (countArg arg label args otherwise missing) := by
  unfold countArg
  split
  · split
    · split
      · exact plain_ok _
      · exact plain_refuse _ _ _
    · exact plain_refuse _ _ _
  · split
    · exact plain_ok _
    · exact plain_message _

theorem plain_range (args : Fields) : Plain (range args) := by
  apply plain_bind (plain_count_arg _ _ _ _ _)
  intro start
  apply plain_bind (plain_count_arg _ _ _ _ _)
  intro step
  apply plain_bind (plain_count_arg _ _ _ _ _)
  intro finish
  split
  · apply plain_bind (plain_message _)
    intro _
    exact plain_ok _
  · exact plain_ok _

theorem plain_throwing (args : Fields) : Plain (throwing args) := by
  unfold throwing
  split <;> exact plain_message _

theorem plain_bounded (sign : String) (signed : Bool) (left right result : Int) :
    Plain (bounded sign signed left right result) := by
  unfold bounded
  dsimp only
  split <;> split
  · exact plain_ok _
  · exact plain_message _
  · exact plain_ok _
  · exact plain_message _

theorem plain_on_words (sign : String) (op : Int → Int → Int)
    (onReals : Binary64 → Binary64 → Option Binary64) (left right : Number) :
    Plain (onWords sign op onReals left right) := by
  unfold onWords
  split
  · exact plain_bounded _ _ _ _ _
  · split
    · exact plain_bounded _ _ _ _ _
    · exact plain_ok _

theorem plain_remainder (shown : String) (left right : Number) :
    Plain (remainder shown left right) := by
  have words : ∀ l r : Int, Plain (if r = 0 then
      .error (.message ("Tried to do a modulo by zero: " ++ shown))
      else .ok (Number.ofInt? (l.tmod r)) : Except Fault (Option Number)) := by
    intro l r
    split
    · exact plain_message _
    · exact plain_ok _
  unfold remainder
  dsimp only
  split
  · exact words _ _
  · split
    · exact words _ _
    · exact plain_ok _

theorem plain_compute (op : MathOp) (shown : String) (left right : Number) :
    Plain (compute op shown left right) := by
  cases op with
  | add | sub | mul => exact plain_on_words _ _ _ left right
  | div => exact plain_ok _
  | modulo => exact plain_remainder shown left right

theorem plain_is_member (item container : Value) : Plain (isMember item container) := by
  unfold isMember
  split
  · exact plain_ok _
  · split
    · exact plain_ok _
    · exact plain_message _
  · split
    · exact plain_ok _
    · exact plain_message _
  · exact plain_message _

theorem plain_rounds (container : String) (key : Option String) (v : Value) :
    Plain (rounds container key v) := by
  unfold rounds
  dsimp only
  split
  · split
    · exact plain_message _
    · exact plain_ok _
  · split
    · exact plain_message _
    · exact plain_ok _
  · split
    · exact plain_ok _
    · exact plain_message _
  · exact plain_message _

theorem plain_container_name (container : Expr) : Plain (containerName container) := by
  unfold containerName
  split
  · exact plain_ok _
  · exact plain_ok _
  · exact plain_ok _
  · exact plain_message _

end Stencil.Markup
