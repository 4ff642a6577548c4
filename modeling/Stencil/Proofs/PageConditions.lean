import Stencil.Proofs.Fields
import Stencil.Markup.Evaluation

/-!
The conditions of a page: those of its branches, and the sides of `and` and of `or` wherever these
are. No other expression is tested for truth.
-/

namespace Stencil.Markup

mutual

/-- The conditions inside an expression, of which it is none itself. -/
def Expr.conditions : Expr → List Expr
  | .mk term _ filters => term.conditions ++ callsConditions filters

def Term.conditions : Term → List Expr
  | .logic .both left right | .logic .either left right =>
      left :: right :: (left.conditions ++ right.conditions)
  | .logic _ left right | .math _ left right => left.conditions ++ right.conditions
  | .test _ _ _ args => exprsConditions args
  | .macroCall _ _ args => argsConditions args
  | .call call => call.conditions
  | .array items => exprsConditions items
  | .concat parts => termsConditions parts
  | .membership item container _ => item.conditions ++ container.conditions
  | .text _ | .whole _ | .real _ | .bool _ | .path _ => []

def Call.conditions : Call → List Expr
  | .mk _ args => argsConditions args

def callsConditions : List Call → List Expr
  | [] => []
  | call :: rest => call.conditions ++ callsConditions rest

def exprsConditions : List Expr → List Expr
  | [] => []
  | e :: rest => e.conditions ++ exprsConditions rest

def termsConditions : List Term → List Expr
  | [] => []
  | term :: rest => term.conditions ++ termsConditions rest

def argsConditions : List (String × Expr) → List Expr
  | [] => []
  | (_, e) :: rest => e.conditions ++ argsConditions rest

end

def presetsConditions (params : List (String × Option Expr)) : List Expr :=
  (params.filterMap Prod.snd).flatMap Expr.conditions

mutual

def Node.conditions : Node → List Expr
  | .show _ e | .assign _ _ e _ => e.conditions
  | .define _ _ params body _ => presetsConditions params ++ nodesConditions body
  | .section _ filter body _ => filter.conditions ++ nodesConditions body
  | .block _ _ body _ => nodesConditions body
  | .loop _ _ _ container body otherwise _ =>
      container.conditions ++ nodesConditions body ++ optionConditions otherwise
  | .branch cases otherwise _ => casesConditions cases ++ elseConditions otherwise
  | .text _ | .comment _ | .include .. | .inherit .. | .borrow .. | .raw .. | .superBlock
  | .leave _ | .proceed _ => []

def nodesConditions : List Node → List Expr
  | [] => []
  | node :: rest => node.conditions ++ nodesConditions rest

def optionConditions : Option (List Node) → List Expr
  | none => []
  | some nodes => nodesConditions nodes

def elseConditions : Option (Edges × List Node) → List Expr
  | none => []
  | some (_, nodes) => nodesConditions nodes

def casesConditions : List (Edges × Expr × List Node) → List Expr
  | [] => []
  | (_, e, nodes) :: rest =>
      e :: (e.conditions ++ nodesConditions nodes ++ casesConditions rest)

end

/-- All that a page tests for truth, its blocks and its macros included. -/
def Book.conditions (book : Book) : List Expr :=
  nodesConditions book.nodes ++ book.blocks.flatMap (fun entry => nodesConditions entry.2) ++
    book.macros.flatMap fun entry => presetsConditions entry.2.1 ++ nodesConditions entry.2.2

def Among (tests : Expr → Prop) (conditions : List Expr) : Prop := ∀ e ∈ conditions, tests e

section

variable {tests : Expr → Prop}

@[simp] theorem among_nil : Among tests [] := nofun

@[simp] theorem among_cons (e : Expr) (rest : List Expr) :
    Among tests (e :: rest) ↔ tests e ∧ Among tests rest :=
  List.forall_mem_cons

@[simp] theorem among_append (first second : List Expr) :
    Among tests (first ++ second) ↔ Among tests first ∧ Among tests second :=
  List.forall_mem_append

theorem among_flat_map {α : Type} (conditions : α → List Expr) (items : List α) :
    Among tests (items.flatMap conditions) ↔ ∀ item ∈ items, Among tests (conditions item) := by
  induction items with
  | nil => simp
  | cons item rest ih => rw [List.flatMap_cons, among_append, ih, List.forall_mem_cons]

end

namespace Among

variable {tests : Expr → Prop} {book : Book}

theorem nodes (whole : Among tests book.conditions) :
    Among tests (nodesConditions book.nodes) := by
  simp only [Book.conditions, among_append] at whole
  exact whole.1.1

theorem block (whole : Among tests book.conditions) {name : String} {body : List Node}
    (found : book.blocks.lookup name = some body) : Among tests (nodesConditions body) := by
  simp only [Book.conditions, among_append, among_flat_map] at whole
  exact whole.1.2 _ (mem_of_lookup found)

theorem macro_parts (whole : Among tests book.conditions) {name : String}
    {params : List (String × Option Expr)} {body : List Node}
    (found : book.macros.lookup name = some (params, body)) :
    (∀ param ∈ params, ∀ preset, param.2 = some preset → Among tests preset.conditions) ∧
      Among tests (nodesConditions body) := by
  simp only [Book.conditions, among_append, among_flat_map, presetsConditions] at whole
  obtain ⟨presets, nodes⟩ := whole.2 _ (mem_of_lookup found)
  refine ⟨?_, nodes⟩
  intro param member preset fallen
  exact presets preset (List.mem_filterMap.mpr ⟨param, member, fallen⟩)

end Among

theorem calls_conditions_eq (calls : List Call) :
    callsConditions calls = calls.flatMap Call.conditions := by
  induction calls with
  | nil => rfl
  | cons call rest ih => rw [callsConditions, ih, List.flatMap_cons]

theorem exprs_conditions_eq (items : List Expr) :
    exprsConditions items = items.flatMap Expr.conditions := by
  induction items with
  | nil => rfl
  | cons e rest ih => rw [exprsConditions, ih, List.flatMap_cons]

theorem terms_conditions_eq (parts : List Term) :
    termsConditions parts = parts.flatMap Term.conditions := by
  induction parts with
  | nil => rfl
  | cons part rest ih => rw [termsConditions, ih, List.flatMap_cons]

theorem args_conditions_eq (args : List (String × Expr)) :
    argsConditions args = args.flatMap fun arg => arg.2.conditions := by
  induction args with
  | nil => rfl
  | cons arg rest ih =>
      obtain ⟨name, e⟩ := arg
      rw [argsConditions, ih, List.flatMap_cons]

end Stencil.Markup
