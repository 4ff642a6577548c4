import Stencil.Proofs.PageCare

/-!
Every part of a page ends as its care asks. One lemma for each kind of part takes
it from one level of evaluation to the next; the levels below count as known, for
the same care and, where a failure is dropped, for silence.
-/

namespace Stencil.Markup

open Page

/-- What is known of the parts of a page at a number of levels. -/
structure Settling (book : Book) (care : Care) (levels : Nat) : Prop where
  expr : ∀ e, e.Fits care .value → Settles care (evalExpr book levels e)
  default : ∀ e, (∀ filter ∈ e.filters, ArgsFit care filter.args) →
    Settles care (evalDefault book levels e)
  part : ∀ term, term.Fits care .value → Settles care (concatPart book levels term)
  args : ∀ args, ArgsFit care args → Settles care (evalArgs book levels args)
  call : ∀ call, care ≠ .silent → ArgsFit care call.args →
    Settles care (evalCall book levels call)
  filter : ∀ v filter, ArgsFit care filter.args →
    Settles care (applyFilter book levels v filter)
  test : ∀ path negated name args, ExprsFit care args →
    Settles care (evalTest book levels path negated name args)
  membership : ∀ item container negated, item.Fits care .value → container.Fits care .value →
    Settles care (evalMembership book levels item container negated)
  condition : ∀ e, e.Fits care .condition → Settles care (evalBool book levels e)
  operand : ∀ e, e.Fits care .operand → Settles care (evalOperand book levels e)
  number : ∀ term, term.Fits care .operand → Settles care (evalNumber book levels term)
  macroCall : ∀ space name args, care ≠ .silent → ArgsFit care args →
    Settles care (callMacro book levels space name args)
  nodes : ∀ nodes, care ≠ .silent → (care = .firm → nodesKeep nodes = true) →
    Settles care (renderNodes book levels nodes)
  node : ∀ node, care ≠ .silent → (care = .firm → node.keeps = true) →
    Settles care (renderNode book levels node)
  cases : ∀ cases otherwise, care ≠ .silent → (care = .firm → casesKeep cases = true) →
    (care = .firm → elseKeeps otherwise = true) →
    Settles care (renderCases book levels cases otherwise)
  loop : ∀ key item container body otherwise, care ≠ .silent → container.Fits care .value →
    (care = .firm → nodesKeep body = true) → (care = .firm → optionKeeps otherwise = true) →
    Settles care (renderLoop book levels key item container body otherwise)

variable {book : Book} {care : Care} {levels : Nat}

/-- The filters of an expression one after the other, and then its negation. -/
theorem settles_finish (known : Settling book care levels) (negated : Bool) (filters : List Call)
    (fit : ∀ filter ∈ filters, ArgsFit care filter.args) (v : Value) :
    Settles care (do
      let v ← filters.foldlM (fun v filter =>
        if (filter.name == "safe" || filter.name == "default") = true then pure v
        else applyFilter book levels v filter) v
      if negated = true then pure (Value.bool !isTruthy v) else pure v) := by
  apply settles_bind
  · apply settles_foldl_m
    intro filter member state
    split
    · exact settles_pure state
    · exact known.filter state filter (fit filter member)
  · intro v
    split <;> exact settles_pure _

theorem settles_eval_expr (known : Settling book care levels)
    (quiet : care ≠ .any → Settling book .silent levels) (e : Expr) (fits : e.Fits care .value) :
    Settles care (evalExpr book (levels + 1) e) := by
  obtain ⟨term, negated, filters⟩ := e
  have finish := settles_finish known negated filters fits.filters
  have inner : term.Fits care .value := fits.term
  cases term with
  | array items =>
      simp only [evalExpr, Expr.term, Expr.filters, Expr.negated]
      apply settles_bind (settles_map_m items fun e member => known.expr e (inner.array e member))
      intro values
      exact finish _
  | membership item container negated =>
      simp only [evalExpr, Expr.term, Expr.filters, Expr.negated]
      obtain ⟨first, second⟩ := inner.membership (by decide)
      apply settles_bind (known.membership item container negated first second)
      intro b
      exact finish _
  | concat parts =>
      simp only [evalExpr, Expr.term, Expr.filters, Expr.negated]
      apply settles_bind
        (settles_map_m parts fun part member => known.part part (inner.concat part member))
      intro texts
      exact finish _
  | text _ | whole _ | real _ | bool _ =>
      simp only [evalExpr, Expr.term, Expr.filters, Expr.negated]
      exact finish _
  | path p =>
      simp only [evalExpr, Expr.term, Expr.filters, Expr.negated]
      have preset := known.default (.mk (.path p) negated filters) fits.filters
      apply settles_bind settles_get
      intro scope
      split
      · split
        · exact settles_bind preset finish
        · exact finish _
      · exact finish _
      · split
        · exact settles_bind preset finish
        · rename_i fault failed _
          obtain ⟨text, same⟩ := plain_lookup scope p fault failed
          subst same
          cases negated with
          | true => exact settles_pure (Value.bool true)
          | false => exact settles_failure text
  | call call =>
      simp only [evalExpr, Expr.term, Expr.filters, Expr.negated]
      obtain ⟨asks, args⟩ := inner.call
      exact settles_bind (known.call call asks args) finish
  | macroCall space name args =>
      simp only [evalExpr, Expr.term, Expr.filters, Expr.negated]
      obtain ⟨asks, given⟩ := inner.macro_call
      apply settles_bind (known.macroCall space name args asks given)
      intro s
      exact finish _
  | test path negated name args =>
      simp only [evalExpr, Expr.term, Expr.filters, Expr.negated]
      apply settles_bind (known.test path negated name args (inner.test (by decide)))
      intro b
      exact finish _
  | logic op left right =>
      simp only [evalExpr, Expr.term, Expr.filters, Expr.negated]
      have condition := (Expr.fits_condition_iff rfl rfl).mpr fits
      apply settles_bind (known.condition _ condition)
      intro b
      exact finish _
  | math op left right =>
      simp only [evalExpr, Expr.term, Expr.filters, Expr.negated]
      apply settles_dropped
      · intro kept
        exact (quiet kept).number _ (inner.reduced kept)
      · intro outcome
        split
        · exact finish _
        · exact finish _
        · exact settles_failure _

theorem settles_eval_default (known : Settling book care levels) (e : Expr)
    (fit : ∀ filter ∈ e.filters, ArgsFit care filter.args) :
    Settles care (evalDefault book (levels + 1) e) := by
  simp only [evalDefault]
  split
  · rename_i filter rest shape
    split
    · rename_i value found
      have first : filter ∈ e.filters := by
        rw [shape]
        exact List.mem_cons_self
      exact known.expr value (fit filter first _ (mem_of_lookup found))
    · exact settles_failure _
  · exact settles_failure _

theorem settles_concat_part (known : Settling book care levels) (part : Term)
    (fits : part.Fits care .value) : Settles care (concatPart book (levels + 1) part) := by
  cases part with
  | path p =>
      simp only [concatPart]
      apply settles_bind settles_get
      intro scope
      apply settles_bind (settles_of_except (plain_lookup scope p))
      intro v
      split
      · exact settles_pure _
      · exact settles_pure _
      · exact settles_failure _
  | call call =>
      simp only [concatPart]
      obtain ⟨asks, args⟩ := fits.call
      apply settles_bind (known.call call asks args)
      intro v
      split
      · exact settles_pure _
      · exact settles_pure _
      · exact settles_failure _
  | text _ | whole _ | real _ | bool _ | math _ _ _ | logic _ _ _ | test _ _ _ _
  | macroCall _ _ _ | array _ | concat _ | membership _ _ _ => exact settles_pure _

theorem settles_eval_args (known : Settling book care levels) (args : List (String × Expr))
    (fit : ArgsFit care args) : Settles care (evalArgs book (levels + 1) args) := by
  simp only [evalArgs]
  apply settles_map_m
  intro arg member
  apply settles_bind (known.expr arg.2 (fit arg member))
  intro v
  exact settles_pure _

theorem settles_eval_call (known : Settling book care levels) (call : Call)
    (asks : care ≠ .silent) (fit : ArgsFit care call.args) :
    Settles care (evalCall book (levels + 1) call) := by
  simp only [evalCall]
  split
  · exact settles_failure _
  · rename_i function found
    apply settles_within (.function call.name)
    apply settles_bind (known.args call.args fit)
    intro args
    exact settles_function asks call.name function found args

theorem settles_apply_filter (known : Settling book care levels) (v : Value) (filter : Call)
    (fit : ArgsFit care filter.args) :
    Settles care (applyFilter book (levels + 1) v filter) := by
  simp only [applyFilter]
  split
  · exact settles_failure _
  · rename_i function found
    apply settles_within (.filter filter.name)
    apply settles_bind (known.args filter.args fit)
    intro args
    exact settles_of_except (Filter.plain_find filter.name function found v args)

theorem settles_eval_test (known : Settling book care levels) (path : String) (negated : Bool)
    (name : String) (args : List Expr) (fit : ExprsFit care args) :
    Settles care (evalTest book (levels + 1) path negated name args) := by
  simp only [evalTest]
  split
  · exact settles_failure _
  · rename_i check found
    apply settles_within (.test name)
    apply settles_bind (settles_map_m args fun e member => known.expr e (fit e member))
    intro given
    apply settles_bind settles_get
    intro scope
    apply settles_bind (settles_of_except (Check.plain_find name check found _ given))
    intro b
    exact settles_pure _

theorem settles_eval_membership (known : Settling book care levels) (item container : Expr)
    (negated : Bool) (first : item.Fits care .value) (second : container.Fits care .value) :
    Settles care (evalMembership book (levels + 1) item container negated) := by
  simp only [evalMembership]
  apply settles_bind (known.expr item first)
  intro v
  apply settles_bind (known.expr container second)
  intro container
  apply settles_bind (settles_of_except (plain_is_member v container))
  intro b
  exact settles_pure _

theorem settles_eval_operand (known : Settling book care levels) (e : Expr)
    (fits : e.Fits care .operand) : Settles care (evalOperand book (levels + 1) e) := by
  obtain ⟨term, negated, filters⟩ := e
  simp only [evalOperand, Expr.filters, Expr.term]
  cases filters with
  | nil =>
      have inner : term.Fits care .operand := fits.term
      exact known.number term inner
  | cons filter rest =>
      have value := fits.operand (List.cons_ne_nil filter rest)
      apply settles_bind (known.expr _ value)
      intro v
      split
      · exact settles_pure _
      · exact settles_failure _

theorem settles_eval_number (known : Settling book care levels) (term : Term)
    (fits : term.Fits care .operand) : Settles care (evalNumber book (levels + 1) term) := by
  cases term with
  | path p =>
      simp only [evalNumber]
      apply settles_bind settles_get
      intro scope
      apply settles_bind (settles_of_except (plain_lookup scope p))
      intro v
      split
      · exact settles_pure _
      · exact settles_failure _
  | math op left right =>
      simp only [evalNumber]
      obtain ⟨first, second⟩ := fits.sides
      apply settles_bind (known.operand left first)
      intro l
      apply settles_bind (known.operand right second)
      intro r
      split
      · exact settles_of_except (plain_compute op _ _ _)
      · exact settles_pure _
  | call call =>
      simp only [evalNumber]
      obtain ⟨asks, args⟩ := fits.call
      apply settles_bind (known.call call asks args)
      intro v
      split
      · exact settles_pure _
      · exact settles_failure _
  | whole _ | real _ => exact settles_pure _
  | text _ | bool _ | logic _ _ _ | test _ _ _ _ | macroCall _ _ _ | array _ | concat _
  | membership _ _ _ => exact settles_failure _

theorem settles_eval_bool (known : Settling book care levels)
    (quiet : care ≠ .any → Settling book .silent levels) (e : Expr)
    (fits : e.Fits care .condition) : Settles care (evalBool book (levels + 1) e) := by
  obtain ⟨term, negated, filters⟩ := e
  have inner : term.Fits care .condition := fits.term
  cases term with
  | logic op left right =>
      obtain ⟨first, second⟩ := inner.compared
      cases op with
      | either =>
          simp only [evalBool, Expr.term, Expr.negated]
          apply settles_bind (known.condition left first)
          intro b
          split
          · exact settles_pure _
          · exact settles_bind (known.condition right second) fun b => settles_pure _
      | both =>
          simp only [evalBool, Expr.term, Expr.negated]
          apply settles_bind (known.condition left first)
          intro b
          split
          · exact settles_bind (known.condition right second) fun b => settles_pure _
          · exact settles_pure _
      | equal | different =>
          simp only [evalBool, Expr.term, Expr.negated]
          apply settles_bind (known.expr left first)
          intro l
          apply settles_bind (known.expr right second)
          intro r
          split <;> exact settles_pure _
      | greater | atLeast | less | atMost =>
          simp only [evalBool, Expr.term, Expr.negated]
          apply settles_bind (known.operand left first)
          intro l
          apply settles_bind (known.operand right second)
          intro r
          split
          · exact settles_pure _
          · exact settles_failure _
  | path p =>
      simp only [evalBool, Expr.term, Expr.negated]
      apply settles_dropped
      · intro kept
        exact (quiet kept).expr _ (fits.tested kept)
      · intro outcome
        exact settles_pure _
  | math _ _ _ | whole _ | real _ =>
      simp only [evalBool, Expr.term, Expr.negated]
      apply settles_bind (known.number _ (inner.of id id))
      intro n
      split <;> exact settles_pure _
  | membership item container negated =>
      simp only [evalBool, Expr.term, Expr.negated]
      obtain ⟨first, second⟩ := inner.membership (by decide)
      apply settles_bind (known.membership item container negated first second)
      intro b
      exact settles_pure _
  | test path negated name args =>
      simp only [evalBool, Expr.term, Expr.negated]
      apply settles_bind (known.test path negated name args (inner.test (by decide)))
      intro b
      exact settles_pure _
  | bool _ | text _ => exact settles_pure _
  | call call =>
      simp only [evalBool, Expr.term, Expr.negated]
      obtain ⟨asks, args⟩ := inner.call
      apply settles_bind (known.call call asks args)
      intro v
      split
      · exact settles_pure _
      · exact settles_failure _
  | concat _ | array _ =>
      simp only [evalBool, Expr.term, Expr.negated]
      apply settles_bind (known.expr _ ((Expr.fits_condition_iff rfl rfl).mp fits))
      intro v
      exact settles_pure _
  | macroCall space name args =>
      simp only [evalBool, Expr.term, Expr.negated]
      obtain ⟨asks, given⟩ := inner.macro_call
      apply settles_bind (known.macroCall space name args asks given)
      intro s
      exact settles_pure _

/-- A macro is a part of the book, so what the care asks of the book it asks of it. -/
theorem settles_call_macro (known : Settling book care levels)
    (kept : care = .firm → book.keeps = true) (space name : String)
    (args : List (String × Expr)) (asks : care ≠ .silent) (fit : ArgsFit care args) :
    Settles care (callMacro book (levels + 1) space name args) := by
  simp only [callMacro]
  split
  · exact settles_failure _
  · split
    · exact settles_failure _
    · rename_i params body found
      have part : care = .firm → presetsKeep params = true ∧ nodesKeep body = true :=
        fun firm => Book.macro_keeps (kept firm) found
      apply settles_bind
      · apply settles_map_m
        intro param member
        obtain ⟨arg, preset⟩ := param
        cases found : args.lookup arg with
        | some given =>
            apply settles_bind (known.expr given (fit _ (mem_of_lookup found)))
            intro v
            exact settles_pure _
        | none =>
            cases preset with
            | some value =>
                have fits : value.Fits care .value :=
                  Care.fits_asking asks fun firm => preset_keeps (part firm).1 member
                apply settles_bind (known.expr value fits)
                intro v
                exact settles_pure _
            | none => exact settles_failure _
      · intro vars
        apply settles_bind (settles_modify _)
        intro _
        apply settles_bind (known.nodes body asks fun firm => (part firm).2)
        intro output
        apply settles_bind (settles_modify _)
        intro _
        exact settles_pure _

theorem settles_render_nodes (known : Settling book care levels) (nodes : List Node)
    (asks : care ≠ .silent) (kept : care = .firm → nodesKeep nodes = true) :
    Settles care (renderNodes book (levels + 1) nodes) := by
  simp only [renderNodes]
  induction nodes with
  | nil => exact settles_pure _
  | cons node rest ih =>
      have both : care = .firm → node.keeps = true ∧ nodesKeep rest = true := by
        intro firm
        exact (Bool.and_eq_true _ _).mp (kept firm)
      simp only [renderNodes.renderRow]
      apply settles_bind (known.node node asks fun firm => (both firm).1)
      intro output
      apply settles_bind settles_get
      intro scope
      split
      · exact settles_pure _
      · apply settles_bind (ih fun firm => (both firm).2)
        intro more
        exact settles_pure _

theorem settles_render_cases (known : Settling book care levels)
    (cases : List (Edges × Expr × List Node)) (otherwise : Option (Edges × List Node))
    (asks : care ≠ .silent) (kept : care = .firm → casesKeep cases = true)
    (keptElse : care = .firm → elseKeeps otherwise = true) :
    Settles care (renderCases book (levels + 1) cases otherwise) := by
  simp only [renderCases]
  induction cases with
  | nil =>
      simp only [renderCases.pick]
      split
      · rename_i edges body
        exact known.nodes body asks keptElse
      · exact settles_pure _
  | cons entry rest ih =>
      obtain ⟨edges, e, body⟩ := entry
      have parts : care = .firm →
          (e.keeps .condition = true ∧ nodesKeep body = true) ∧ casesKeep rest = true := by
        intro firm
        have all := kept firm
        simp only [casesKeep, Bool.and_eq_true] at all
        exact all
      simp only [renderCases.pick]
      apply settles_bind
      · exact known.condition e (Care.fits_asking asks fun firm => (parts firm).1.1)
      · intro b
        split
        · exact known.nodes body asks fun firm => (parts firm).1.2
        · exact ih fun firm => (parts firm).2

theorem settles_repeat_rounds {render : Page String} (known : Settles care render) (index : Nat)
    (rounds : List (String × Value)) :
    Settles care (renderLoop.repeatRounds render index rounds) := by
  induction rounds generalizing index with
  | nil => exact settles_pure _
  | cons entry rest ih =>
      obtain ⟨key, item⟩ := entry
      simp only [renderLoop.repeatRounds]
      apply settles_bind (settles_modify _)
      intro _
      apply settles_bind known
      intro output
      apply settles_bind settles_get
      intro scope
      split
      · exact settles_pure _
      · apply settles_bind (ih (index + 1))
        intro more
        exact settles_pure _

theorem settles_render_loop (known : Settling book care levels) (key : Option String)
    (item : String) (container : Expr) (body : List Node) (otherwise : Option (List Node))
    (asks : care ≠ .silent) (fits : container.Fits care .value)
    (kept : care = .firm → nodesKeep body = true)
    (keptElse : care = .firm → optionKeeps otherwise = true) :
    Settles care (renderLoop book (levels + 1) key item container body otherwise) := by
  simp only [renderLoop]
  apply settles_bind (settles_of_except (plain_container_name container))
  intro name
  apply settles_bind (known.expr container fits)
  intro v
  apply settles_bind (settles_of_except (plain_rounds name key v))
  intro steps
  split
  · exact known.nodes _ asks keptElse
  · exact settles_pure _
  · apply settles_bind (settles_modify _)
    intro _
    apply settles_bind (settles_repeat_rounds (known.nodes body asks kept) 0 _)
    intro output
    apply settles_bind (settles_modify _)
    intro _
    exact settles_pure _

theorem settles_loop_step (text : String) (change : Scope → Scope) :
    Settles care (do
      if (← get).loop?.isNone then failure text
      modify change
      return "" : Page String) := by
  apply settles_bind settles_get
  intro scope
  have ended : Settles care (do modify change; return "" : Page String) := by
    apply settles_bind (settles_modify change)
    intro _
    exact settles_pure _
  split
  · exact settles_bind (settles_failure text) fun _ => ended
  · exact ended

/-- A block and the page itself are parts of the book, like a macro. -/
theorem settles_render_node (known : Settling book care levels)
    (kept : care = .firm → book.keeps = true) (node : Node) (asks : care ≠ .silent)
    (keeps : care = .firm → node.keeps = true) :
    Settles care (renderNode book (levels + 1) node) := by
  cases node with
  | text _ | raw _ _ _ | comment _ | define _ _ _ _ _ | borrow _ _ => exact settles_pure _
  | superBlock | inherit _ _ => exact settles_failure _
  | «show» edges e =>
      simp only [renderNode]
      apply settles_bind (known.expr e (Care.fits_asking asks keeps))
      intro v
      exact settles_pure _
  | assign edges name e everywhere =>
      simp only [renderNode]
      apply settles_bind (known.expr e (Care.fits_asking asks keeps))
      intro v
      apply settles_bind (settles_modify _)
      intro _
      exact settles_pure _
  | «section» start filter body finish =>
      have parts : care = .firm → filter.keeps .value = true ∧ nodesKeep body = true :=
        fun firm => (Bool.and_eq_true _ _).mp (keeps firm)
      have args : ArgsFit care filter.args := by
        obtain ⟨name, args⟩ := filter
        exact args_fit_of (Care.fits_asking asks fun firm => (parts firm).1)
      simp only [renderNode]
      apply settles_bind (known.nodes body asks fun firm => (parts firm).2)
      intro output
      split
      · exact settles_pure _
      · apply settles_bind (known.filter (.string output) filter args)
        intro v
        exact settles_pure _
  | branch cases otherwise finish =>
      have parts : care = .firm → casesKeep cases = true ∧ elseKeeps otherwise = true :=
        fun firm => (Bool.and_eq_true _ _).mp (keeps firm)
      simp only [renderNode]
      exact known.cases cases otherwise asks (fun firm => (parts firm).1)
        fun firm => (parts firm).2
  | loop start key item container body otherwise finish =>
      have parts : care = .firm → (container.keeps .value = true ∧ nodesKeep body = true) ∧
          optionKeeps otherwise = true := by
        intro firm
        have all := keeps firm
        simp only [Node.keeps, Bool.and_eq_true] at all
        exact all
      simp only [renderNode]
      exact known.loop key item container body otherwise asks
        (Care.fits_asking asks fun firm => (parts firm).1.1) (fun firm => (parts firm).1.2)
        fun firm => (parts firm).2
  | leave edges | proceed edges =>
      simp only [renderNode]
      exact settles_loop_step _ _
  | block start name body finish =>
      simp only [renderNode]
      apply known.nodes _ asks
      intro firm
      cases found : book.blocks.lookup name with
      | none => exact keeps firm
      | some inner => exact Book.block_keeps (kept firm) found
  | «include» edges names ignoreMissing =>
      simp only [renderNode]
      split
      · apply settles_bind (settles_modify _)
        intro _
        apply settles_bind (known.nodes book.nodes asks fun firm => Book.nodes_keep (kept firm))
        intro output
        apply settles_bind (settles_modify _)
        intro _
        exact settles_pure _
      · split
        · exact settles_pure _
        · exact settles_failure _

/-- At every number of levels, a part of a page ends as its care asks. -/
theorem settling (book : Book) (levels : Nat) (care : Care)
    (kept : care = .firm → book.keeps = true) : Settling book care levels := by
  induction levels generalizing care with
  | zero =>
      constructor <;> intros <;> exact settles_failure _
  | succ levels ih =>
      have known := ih care kept
      have quiet : care ≠ .any → Settling book .silent levels := by
        intro _
        apply ih .silent
        intro impossible
        cases impossible
      exact {
        expr := settles_eval_expr known quiet
        default := settles_eval_default known
        part := settles_concat_part known
        args := settles_eval_args known
        call := settles_eval_call known
        filter := settles_apply_filter known
        test := settles_eval_test known
        membership := settles_eval_membership known
        condition := settles_eval_bool known quiet
        operand := settles_eval_operand known
        number := settles_eval_number known
        macroCall := settles_call_macro known kept
        nodes := settles_render_nodes known
        node := settles_render_node known kept
        cases := settles_render_cases known
        loop := settles_render_loop known }

theorem settles_render_page (book : Book) (care : Care) (asks : care ≠ .silent)
    (kept : care = .firm → book.keeps = true) (nodes : List Node)
    (keeps : care = .firm → nodesKeep nodes = true) : Settles care (renderPage book nodes) := by
  induction nodes with
  | nil => exact settles_pure _
  | cons node rest ih =>
      have both : care = .firm → node.keeps = true ∧ nodesKeep rest = true :=
        fun firm => (Bool.and_eq_true _ _).mp (keeps firm)
      have first : Settles care (renderNode book maxLevels node) :=
        (settling book maxLevels care kept).node node asks fun firm => (both firm).1
      simp only [renderPage]
      apply settles_caught
      intro scope
      apply Dialog.ends_mono _ _ (first scope)
      intro earlier answer settled
      obtain ⟨outcome, later⟩ := answer
      cases outcome with
      | ok output =>
          have others : Settles care (do return output ++ (← renderPage book rest)) := by
            apply settles_bind (ih fun firm => (both firm).2)
            intro more
            exact settles_pure _
          apply Dialog.ends_mono _ _ (others later)
          intro exchanges result after
          exact after.after settled.calm
      | error fault =>
          change Settled care (earlier ++ []) (.error (.stage later.placement fault))
          rw [List.append_nil]
          exact settled.stage (.placed later)

end Stencil.Markup
