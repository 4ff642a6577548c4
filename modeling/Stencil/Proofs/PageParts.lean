import Stencil.Proofs.Exchange
import Stencil.Proofs.PageConditions

/-!
The parts of a page are put together in few ways out of what they read, ask and refuse. So
a property of computations that every one of these ways keeps is a property of all parts.
There are two places where a failure is not passed on. Arithmetic fails anew with its text, and
a variable that is tested for truth counts as false.
-/

namespace Stencil.Markup

open Page

/-- A property of computations of a page that is kept by the ways to put them together, if the
expressions that are tested for truth are such. -/
structure Page.Closed (P : (α : Type) → Page α → Prop) (book : Book) (tests : Expr → Prop) :
    Prop where
  pure : ∀ {α : Type} (result : α), P α (pure result)
  raise : ∀ {α : Type} (fault : Fault), P α (throw fault)
  get : P Scope get
  modify : ∀ change : Scope → Scope, P Unit (modify change)
  bind : ∀ {α β : Type} {act : Page α} {next : α → Page β}, P α act →
    (∀ result, P β (next result)) → P β (act >>= next)
  caught : ∀ {α β : Type} {act : Page α} {next : Except Fault α → Page β}, P α act →
    (∀ result, P β (next (.ok result))) →
    (∀ fault : Fault, next (.error fault) = Page.failure fault.text) → P β (attempt act >>= next)
  tested : ∀ (levels : Nat) (e : Expr) {truth : Except Fault Value → Bool}, tests e →
    (∃ path, e.term = .path path) → P Value (evalExpr book levels e) →
    (∀ one other : Fault, truth (.error one) = truth (.error other)) →
    P Bool (do return truth (← attempt (evalExpr book levels e)))
  within : ∀ {α : Type} (step : String) {act : Page α}, P α act → P α (within step act)
  read : ∀ args, P Value (readKey args)
  call : ∀ args, P Value (callOut args)

namespace Page.Closed

variable {P : (α : Type) → Page α → Prop} {book : Book} {tests : Expr → Prop} {α β : Type}

theorem failure (closed : Closed P book tests) (text : String) : P α (Page.failure text) :=
  closed.raise (.message text)

theorem of_except (closed : Closed P book tests) (outcome : Except Fault α) :
    P α (MonadExcept.ofExcept outcome) := by
  cases outcome with
  | ok result => exact closed.pure result
  | error fault => exact closed.raise fault

theorem map_m (closed : Closed P book tests) (items : List α) {act : α → Page β}
    (each : ∀ item ∈ items, P β (act item)) : P (List β) (items.mapM act) := by
  induction items with
  | nil => exact closed.pure []
  | cons item rest ih =>
      obtain ⟨first, others⟩ := List.forall_mem_cons.mp each
      rw [List.mapM_cons]
      apply closed.bind first
      intro result
      apply closed.bind (ih others)
      intro results
      exact closed.pure (result :: results)

theorem foldl_m (closed : Closed P book tests) (items : List α) {act : β → α → Page β}
    (each : ∀ item ∈ items, ∀ state, P β (act state item)) (state : β) :
    P β (items.foldlM act state) := by
  induction items generalizing state with
  | nil => exact closed.pure state
  | cons item rest ih =>
      obtain ⟨first, others⟩ := List.forall_mem_cons.mp each
      rw [List.foldlM_cons]
      exact closed.bind (first state) (ih others)

theorem function (closed : Closed P book tests) (name : String) (function : Fields → Page Value)
    (found : function? name = some function) (args : Fields) : P Value (function args) := by
  unfold function? at found
  split at found
  · cases found
    exact closed.read args
  · split at found
    · cases found
      exact closed.call args
    · split at found
      · cases found
        exact closed.of_except (range args)
      · split at found
        · cases found
          exact closed.of_except (throwing args)
        · split at found
          · cases found
            exact closed.failure _
          · cases found

end Page.Closed

/-- What is known of the parts of a page at a number of levels. -/
structure Parts (P : (α : Type) → Page α → Prop) (book : Book) (tests : Expr → Prop)
    (levels : Nat) : Prop where
  expr : ∀ e, Among tests e.conditions → P Value (evalExpr book levels e)
  default : ∀ e, Among tests e.conditions → P Value (evalDefault book levels e)
  part : ∀ term, Among tests term.conditions → P String (concatPart book levels term)
  args : ∀ args, Among tests (argsConditions args) → P Fields (evalArgs book levels args)
  call : ∀ call, Among tests call.conditions → P Value (evalCall book levels call)
  filter : ∀ v filter, Among tests filter.conditions → P Value (applyFilter book levels v filter)
  test : ∀ path negated name args, Among tests (exprsConditions args) →
    P Bool (evalTest book levels path negated name args)
  membership : ∀ item container negated, Among tests item.conditions →
    Among tests container.conditions → P Bool (evalMembership book levels item container negated)
  condition : ∀ e, ((∃ path, e.term = .path path) → tests e) → Among tests e.conditions →
    P Bool (evalBool book levels e)
  operand : ∀ e, Among tests e.conditions → P (Option Number) (evalOperand book levels e)
  number : ∀ term, Among tests term.conditions → P (Option Number) (evalNumber book levels term)
  macroCall : ∀ space name args, Among tests (argsConditions args) →
    P String (callMacro book levels space name args)
  nodes : ∀ nodes, Among tests (nodesConditions nodes) → P String (renderNodes book levels nodes)
  node : ∀ node, Among tests node.conditions → P String (renderNode book levels node)
  cases : ∀ cases otherwise, Among tests (casesConditions cases) →
    Among tests (elseConditions otherwise) → P String (renderCases book levels cases otherwise)
  loop : ∀ key item container body otherwise, Among tests container.conditions →
    Among tests (nodesConditions body) → Among tests (optionConditions otherwise) →
    P String (renderLoop book levels key item container body otherwise)

namespace Parts

variable {P : (α : Type) → Page α → Prop} {book : Book} {tests : Expr → Prop} {levels : Nat}

theorem finish (closed : Page.Closed P book tests) (known : Parts P book tests levels)
    (negated : Bool) {filters : List Call} (inside : Among tests (callsConditions filters))
    (v : Value) :
    P Value (do
      let v ← filters.foldlM (fun v filter =>
        if (filter.name == "safe" || filter.name == "default") = true then pure v
        else applyFilter book levels v filter) v
      if negated = true then pure (Value.bool !isTruthy v) else pure v) := by
  rw [calls_conditions_eq, among_flat_map] at inside
  apply closed.bind
  · apply closed.foldl_m
    intro filter member state
    split
    · exact closed.pure state
    · exact known.filter state filter (inside filter member)
  · intro v
    split <;> exact closed.pure _

theorem eval_expr (closed : Page.Closed P book tests) (known : Parts P book tests levels)
    (e : Expr) (inside : Among tests e.conditions) :
    P Value (Markup.evalExpr book (levels + 1) e) := by
  obtain ⟨term, negated, filters⟩ := e
  obtain ⟨inner, filtered⟩ := (among_append _ _).mp inside
  have finish := known.finish closed negated filtered
  cases term with
  | array items =>
      simp only [Markup.evalExpr, Expr.term, Expr.filters, Expr.negated]
      rw [Term.conditions, exprs_conditions_eq, among_flat_map] at inner
      apply closed.bind (closed.map_m items fun item member => known.expr item (inner item member))
      exact fun values => finish _
  | membership item container negated =>
      simp only [Markup.evalExpr, Expr.term, Expr.filters, Expr.negated]
      obtain ⟨first, second⟩ := (among_append _ _).mp inner
      exact closed.bind (known.membership item container negated first second) fun b => finish _
  | concat parts =>
      simp only [Markup.evalExpr, Expr.term, Expr.filters, Expr.negated]
      rw [Term.conditions, terms_conditions_eq, among_flat_map] at inner
      apply closed.bind (closed.map_m parts fun part member => known.part part (inner part member))
      exact fun texts => finish _
  | text _ | whole _ | real _ | bool _ =>
      simp only [Markup.evalExpr, Expr.term, Expr.filters, Expr.negated]
      exact finish _
  | path p =>
      simp only [Markup.evalExpr, Expr.term, Expr.filters, Expr.negated]
      have preset := known.default (.mk (.path p) negated filters) inside
      apply closed.bind closed.get
      intro scope
      split
      · split
        · exact closed.bind preset finish
        · exact finish _
      · exact finish _
      · split
        · exact closed.bind preset finish
        · cases negated with
          | true => exact closed.pure _
          | false => exact closed.raise _
  | call call =>
      simp only [Markup.evalExpr, Expr.term, Expr.filters, Expr.negated]
      exact closed.bind (known.call call inner) finish
  | macroCall space name args =>
      simp only [Markup.evalExpr, Expr.term, Expr.filters, Expr.negated]
      exact closed.bind (known.macroCall space name args inner) fun s => finish _
  | test path negated name args =>
      simp only [Markup.evalExpr, Expr.term, Expr.filters, Expr.negated]
      exact closed.bind (known.test path negated name args inner) fun b => finish _
  | logic op left right =>
      simp only [Markup.evalExpr, Expr.term, Expr.filters, Expr.negated]
      exact closed.bind (known.condition _ nofun inside) fun b => finish _
  | math op left right =>
      simp only [Markup.evalExpr, Expr.term, Expr.filters, Expr.negated]
      apply closed.caught (known.number _ inner)
      · intro result
        split
        · exact finish _
        · exact finish _
        · exact closed.failure _
      · exact fun fault => rfl

theorem eval_default (closed : Page.Closed P book tests) (known : Parts P book tests levels)
    (e : Expr) (inside : Among tests e.conditions) :
    P Value (Markup.evalDefault book (levels + 1) e) := by
  obtain ⟨term, negated, filters⟩ := e
  obtain ⟨_, filtered⟩ := (among_append _ _).mp inside
  simp only [Markup.evalDefault, Expr.filters]
  cases filters with
  | nil => exact closed.failure _
  | cons filter rest =>
      obtain ⟨name, args⟩ := filter
      obtain ⟨first, _⟩ := (among_append _ _).mp filtered
      rw [Call.conditions, args_conditions_eq, among_flat_map] at first
      dsimp only [Call.args]
      split
      · rename_i value found
        exact known.expr value (first _ (mem_of_lookup found))
      · exact closed.failure _

theorem concat_part (closed : Page.Closed P book tests) (known : Parts P book tests levels)
    (part : Term) (inside : Among tests part.conditions) :
    P String (Markup.concatPart book (levels + 1) part) := by
  cases part with
  | path p =>
      simp only [Markup.concatPart]
      apply closed.bind closed.get
      intro scope
      apply closed.bind (closed.of_except _)
      intro v
      split
      · exact closed.pure _
      · exact closed.pure _
      · exact closed.failure _
  | call call =>
      simp only [Markup.concatPart]
      apply closed.bind (known.call call inside)
      intro v
      split
      · exact closed.pure _
      · exact closed.pure _
      · exact closed.failure _
  | text _ | whole _ | real _ | bool _ | math _ _ _ | logic _ _ _ | test _ _ _ _
  | macroCall _ _ _ | array _ | concat _ | membership _ _ _ => exact closed.pure _

theorem eval_args (closed : Page.Closed P book tests) (known : Parts P book tests levels)
    (args : List (String × Expr)) (inside : Among tests (argsConditions args)) :
    P Fields (Markup.evalArgs book (levels + 1) args) := by
  rw [args_conditions_eq, among_flat_map] at inside
  simp only [Markup.evalArgs]
  apply closed.map_m
  intro arg member
  exact closed.bind (known.expr arg.2 (inside arg member)) fun v => closed.pure _

theorem eval_call (closed : Page.Closed P book tests) (known : Parts P book tests levels)
    (call : Call) (inside : Among tests call.conditions) :
    P Value (Markup.evalCall book (levels + 1) call) := by
  obtain ⟨name, args⟩ := call
  simp only [Markup.evalCall, Call.name, Call.args]
  split
  · exact closed.failure _
  · rename_i function found
    apply closed.within
    exact closed.bind (known.args args inside) (closed.function name function found)

theorem apply_filter (closed : Page.Closed P book tests) (known : Parts P book tests levels)
    (v : Value) (filter : Call) (inside : Among tests filter.conditions) :
    P Value (Markup.applyFilter book (levels + 1) v filter) := by
  obtain ⟨name, args⟩ := filter
  simp only [Markup.applyFilter, Call.name, Call.args]
  split
  · exact closed.failure _
  · apply closed.within
    exact closed.bind (known.args args inside) fun args => closed.of_except _

theorem eval_test (closed : Page.Closed P book tests) (known : Parts P book tests levels)
    (path : String) (negated : Bool) (name : String) (args : List Expr)
    (inside : Among tests (exprsConditions args)) :
    P Bool (Markup.evalTest book (levels + 1) path negated name args) := by
  rw [exprs_conditions_eq, among_flat_map] at inside
  simp only [Markup.evalTest]
  split
  · exact closed.failure _
  · apply closed.within
    apply closed.bind (closed.map_m args fun arg member => known.expr arg (inside arg member))
    intro given
    apply closed.bind closed.get
    intro scope
    exact closed.bind (closed.of_except _) fun b => closed.pure _

theorem eval_membership (closed : Page.Closed P book tests) (known : Parts P book tests levels)
    (item container : Expr) (negated : Bool) (first : Among tests item.conditions)
    (second : Among tests container.conditions) :
    P Bool (Markup.evalMembership book (levels + 1) item container negated) := by
  simp only [Markup.evalMembership]
  apply closed.bind (known.expr item first)
  intro v
  apply closed.bind (known.expr container second)
  intro container
  exact closed.bind (closed.of_except _) fun b => closed.pure _

theorem eval_operand (closed : Page.Closed P book tests) (known : Parts P book tests levels)
    (e : Expr) (inside : Among tests e.conditions) :
    P (Option Number) (Markup.evalOperand book (levels + 1) e) := by
  obtain ⟨term, negated, filters⟩ := e
  obtain ⟨inner, _⟩ := (among_append _ _).mp inside
  simp only [Markup.evalOperand, Expr.filters, Expr.term]
  cases filters with
  | nil => exact known.number term inner
  | cons filter rest =>
      apply closed.bind (known.expr _ inside)
      intro v
      split
      · exact closed.pure _
      · exact closed.failure _

theorem eval_number (closed : Page.Closed P book tests) (known : Parts P book tests levels)
    (term : Term) (inside : Among tests term.conditions) :
    P (Option Number) (Markup.evalNumber book (levels + 1) term) := by
  cases term with
  | path p =>
      simp only [Markup.evalNumber]
      apply closed.bind closed.get
      intro scope
      apply closed.bind (closed.of_except _)
      intro v
      split
      · exact closed.pure _
      · exact closed.failure _
  | math op left right =>
      simp only [Markup.evalNumber]
      obtain ⟨first, second⟩ := (among_append _ _).mp inside
      apply closed.bind (known.operand left first)
      intro l
      apply closed.bind (known.operand right second)
      intro r
      split
      · exact closed.of_except _
      · exact closed.pure _
  | call call =>
      simp only [Markup.evalNumber]
      apply closed.bind (known.call call inside)
      intro v
      split
      · exact closed.pure _
      · exact closed.failure _
  | whole _ | real _ => exact closed.pure _
  | text _ | bool _ | logic _ _ _ | test _ _ _ _ | macroCall _ _ _ | array _ | concat _
  | membership _ _ _ => exact closed.failure _

theorem eval_bool (closed : Page.Closed P book tests) (known : Parts P book tests levels)
    (e : Expr) (here : (∃ path, e.term = .path path) → tests e)
    (inside : Among tests e.conditions) :
    P Bool (Markup.evalBool book (levels + 1) e) := by
  obtain ⟨term, negated, filters⟩ := e
  obtain ⟨inner, _⟩ := (among_append _ _).mp inside
  cases term with
  | logic op left right =>
      cases op with
      | either =>
          simp only [Markup.evalBool, Expr.term, Expr.negated]
          simp only [Term.conditions, among_cons, among_append] at inner
          obtain ⟨one, other, first, second⟩ := inner
          apply closed.bind (known.condition left (fun _ => one) first)
          intro b
          split
          · exact closed.pure _
          · exact closed.bind (known.condition right (fun _ => other) second) fun b =>
              closed.pure _
      | both =>
          simp only [Markup.evalBool, Expr.term, Expr.negated]
          simp only [Term.conditions, among_cons, among_append] at inner
          obtain ⟨one, other, first, second⟩ := inner
          apply closed.bind (known.condition left (fun _ => one) first)
          intro b
          split
          · exact closed.bind (known.condition right (fun _ => other) second) fun b =>
              closed.pure _
          · exact closed.pure _
      | equal | different =>
          simp only [Markup.evalBool, Expr.term, Expr.negated]
          obtain ⟨first, second⟩ := (among_append _ _).mp inner
          apply closed.bind (known.expr left first)
          intro l
          apply closed.bind (known.expr right second)
          intro r
          split <;> exact closed.pure _
      | greater | atLeast | less | atMost =>
          simp only [Markup.evalBool, Expr.term, Expr.negated]
          obtain ⟨first, second⟩ := (among_append _ _).mp inner
          apply closed.bind (known.operand left first)
          intro l
          apply closed.bind (known.operand right second)
          intro r
          split
          · exact closed.pure _
          · exact closed.failure _
  | path p =>
      simp only [Markup.evalBool, Expr.term, Expr.negated]
      exact closed.tested levels _ (here ⟨p, rfl⟩) ⟨p, rfl⟩ (known.expr _ inside) fun _ _ => rfl
  | math _ _ _ | whole _ | real _ =>
      simp only [Markup.evalBool, Expr.term, Expr.negated]
      apply closed.bind (known.number _ inner)
      intro n
      split <;> exact closed.pure _
  | membership item container negated =>
      simp only [Markup.evalBool, Expr.term, Expr.negated]
      obtain ⟨first, second⟩ := (among_append _ _).mp inner
      exact closed.bind (known.membership item container negated first second) fun b =>
        closed.pure _
  | test path negated name args =>
      simp only [Markup.evalBool, Expr.term, Expr.negated]
      exact closed.bind (known.test path negated name args inner) fun b => closed.pure _
  | bool _ | text _ => exact closed.pure _
  | call call =>
      simp only [Markup.evalBool, Expr.term, Expr.negated]
      apply closed.bind (known.call call inner)
      intro v
      split
      · exact closed.pure _
      · exact closed.failure _
  | concat _ | array _ =>
      simp only [Markup.evalBool, Expr.term, Expr.negated]
      exact closed.bind (known.expr _ inside) fun v => closed.pure _
  | macroCall space name args =>
      simp only [Markup.evalBool, Expr.term, Expr.negated]
      exact closed.bind (known.macroCall space name args inner) fun s => closed.pure _

theorem call_macro (closed : Page.Closed P book tests) (known : Parts P book tests levels)
    (whole : Among tests book.conditions) (space name : String) (args : List (String × Expr))
    (inside : Among tests (argsConditions args)) :
    P String (Markup.callMacro book (levels + 1) space name args) := by
  rw [args_conditions_eq, among_flat_map] at inside
  simp only [Markup.callMacro]
  split
  · exact closed.failure _
  · split
    · exact closed.failure _
    · rename_i params body found
      obtain ⟨presets, nodes⟩ := whole.macro_parts found
      apply closed.bind
      · apply closed.map_m
        intro param member
        split
        · rename_i given passed
          exact closed.bind (known.expr given (inside _ (mem_of_lookup passed))) fun v =>
            closed.pure _
        · rename_i preset _ fallen
          exact closed.bind (known.expr preset (presets param member preset fallen)) fun v =>
            closed.pure _
        · exact closed.failure _
      · intro vars
        apply closed.bind (closed.modify _)
        intro _
        apply closed.bind (known.nodes body nodes)
        intro output
        exact closed.bind (closed.modify _) fun _ => closed.pure _

theorem render_nodes (closed : Page.Closed P book tests) (known : Parts P book tests levels)
    (nodes : List Node) (inside : Among tests (nodesConditions nodes)) :
    P String (Markup.renderNodes book (levels + 1) nodes) := by
  simp only [Markup.renderNodes]
  induction nodes with
  | nil => exact closed.pure _
  | cons node rest ih =>
      obtain ⟨first, others⟩ := (among_append _ _).mp inside
      simp only [renderNodes.renderRow]
      apply closed.bind (known.node node first)
      intro output
      apply closed.bind closed.get
      intro scope
      split
      · exact closed.pure _
      · exact closed.bind (ih others) fun more => closed.pure _

theorem render_cases (closed : Page.Closed P book tests) (known : Parts P book tests levels)
    (cases : List (Edges × Expr × List Node)) (otherwise : Option (Edges × List Node))
    (inside : Among tests (casesConditions cases))
    (last : Among tests (elseConditions otherwise)) :
    P String (Markup.renderCases book (levels + 1) cases otherwise) := by
  simp only [Markup.renderCases]
  induction cases with
  | nil =>
      simp only [renderCases.pick]
      split
      · exact known.nodes _ last
      · exact closed.pure _
  | cons entry rest ih =>
      obtain ⟨edges, e, body⟩ := entry
      simp only [casesConditions, among_cons, among_append] at inside
      obtain ⟨here, ⟨condition, nodes⟩, others⟩ := inside
      simp only [renderCases.pick]
      apply closed.bind (known.condition e (fun _ => here) condition)
      intro b
      split
      · exact known.nodes body nodes
      · exact ih others

theorem repeat_rounds (closed : Page.Closed P book tests) {render : Page String}
    (known : P String render) (index : Nat) (rounds : List (String × Value)) :
    P String (renderLoop.repeatRounds render index rounds) := by
  induction rounds generalizing index with
  | nil => exact closed.pure _
  | cons entry rest ih =>
      obtain ⟨key, item⟩ := entry
      simp only [renderLoop.repeatRounds]
      apply closed.bind (closed.modify _)
      intro _
      apply closed.bind known
      intro output
      apply closed.bind closed.get
      intro scope
      split
      · exact closed.pure _
      · exact closed.bind (ih (index + 1)) fun more => closed.pure _

theorem render_loop (closed : Page.Closed P book tests) (known : Parts P book tests levels)
    (key : Option String) (item : String) (container : Expr) (body : List Node)
    (otherwise : Option (List Node)) (first : Among tests container.conditions)
    (inside : Among tests (nodesConditions body))
    (last : Among tests (optionConditions otherwise)) :
    P String (Markup.renderLoop book (levels + 1) key item container body otherwise) := by
  simp only [Markup.renderLoop]
  apply closed.bind (closed.of_except _)
  intro name
  apply closed.bind (known.expr container first)
  intro v
  apply closed.bind (closed.of_except _)
  intro steps
  split
  · exact known.nodes _ last
  · exact closed.pure _
  · apply closed.bind (closed.modify _)
    intro _
    apply closed.bind (repeat_rounds closed (known.nodes body inside) 0 _)
    intro output
    exact closed.bind (closed.modify _) fun _ => closed.pure _

theorem loop_step (closed : Page.Closed P book tests) (text : String) (change : Scope → Scope) :
    P String (do
      if (← get).loop?.isNone then Page.failure text
      modify change
      return "") := by
  have ended : P String (do modify change; return "") :=
    closed.bind (closed.modify change) fun _ => closed.pure _
  apply closed.bind closed.get
  intro scope
  split
  · exact closed.bind (closed.failure text) fun _ => ended
  · exact ended

theorem render_node (closed : Page.Closed P book tests) (known : Parts P book tests levels)
    (whole : Among tests book.conditions) (node : Node) (inside : Among tests node.conditions) :
    P String (Markup.renderNode book (levels + 1) node) := by
  cases node with
  | text _ | raw _ _ _ | comment _ | define _ _ _ _ _ | borrow _ _ => exact closed.pure _
  | superBlock | inherit _ _ => exact closed.failure _
  | «show» edges e =>
      simp only [Markup.renderNode]
      exact closed.bind (known.expr e inside) fun v => closed.pure _
  | assign edges name e everywhere =>
      simp only [Markup.renderNode]
      apply closed.bind (known.expr e inside)
      intro v
      exact closed.bind (closed.modify _) fun _ => closed.pure _
  | «section» start filter body finish =>
      simp only [Markup.renderNode]
      obtain ⟨filtered, nodes⟩ := (among_append _ _).mp inside
      apply closed.bind (known.nodes body nodes)
      intro output
      split
      · exact closed.pure _
      · exact closed.bind (known.filter (.string output) filter filtered) fun v => closed.pure _
  | branch cases otherwise finish =>
      simp only [Markup.renderNode]
      obtain ⟨first, last⟩ := (among_append _ _).mp inside
      exact known.cases cases otherwise first last
  | loop start key item container body otherwise finish =>
      simp only [Markup.renderNode]
      simp only [Node.conditions, among_append] at inside
      obtain ⟨⟨first, nodes⟩, last⟩ := inside
      exact known.loop key item container body otherwise first nodes last
  | leave edges | proceed edges =>
      simp only [Markup.renderNode]
      exact loop_step closed _ _
  | block start name body finish =>
      simp only [Markup.renderNode]
      cases found : book.blocks.lookup name with
      | none => exact known.nodes body inside
      | some held => exact known.nodes held (whole.block found)
  | «include» edges names ignoreMissing =>
      simp only [Markup.renderNode]
      split
      · apply closed.bind (closed.modify _)
        intro _
        apply closed.bind (known.nodes book.nodes whole.nodes)
        intro output
        exact closed.bind (closed.modify _) fun _ => closed.pure _
      · split
        · exact closed.pure _
        · exact closed.failure _

end Parts

/-- At every number of levels the parts of a page have a property that is kept by the ways
to put them together. -/
theorem parts (P : (α : Type) → Page α → Prop) {book : Book} {tests : Expr → Prop}
    (closed : Page.Closed P book tests) (whole : Among tests book.conditions) (levels : Nat) :
    Parts P book tests levels := by
  induction levels with
  | zero => constructor <;> intros <;> exact closed.failure _
  | succ levels known =>
      exact {
        expr := known.eval_expr closed
        default := known.eval_default closed
        part := known.concat_part closed
        args := known.eval_args closed
        call := known.eval_call closed
        filter := known.apply_filter closed
        test := known.eval_test closed
        membership := known.eval_membership closed
        condition := known.eval_bool closed
        operand := known.eval_operand closed
        number := known.eval_number closed
        macroCall := known.call_macro closed whole
        nodes := known.render_nodes closed
        node := known.render_node closed whole
        cases := known.render_cases closed
        loop := known.render_loop closed }

end Stencil.Markup
