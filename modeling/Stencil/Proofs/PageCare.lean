import Stencil.Proofs.Fields
import Stencil.Proofs.PageSteps

/-!
Where a page keeps what was raised behind a refused request. Arithmetic that
stands for a value reduces a failure to its first text, and a variable that is
tested for truth is false if its filters fail. A page that asks for nothing in
these two places keeps every failure.
-/

namespace Stencil.Markup

/-- What an expression is evaluated for; `dropped` is a place where a failure is
not kept. -/
inductive Use where
  | value | condition | operand | dropped
  deriving DecidableEq

namespace Use

def within (use inner : Use) : Use := if use = .dropped then .dropped else inner

def arithmetic : Use → Use
  | .value | .dropped => .dropped
  | .condition | .operand => .operand

def filtered (use : Use) (filters : List Call) : Use :=
  if use = .operand ∧ filters ≠ [] then .value else use

/-- The filters of a variable that is tested for truth are evaluated with it. -/
def filtering (use : Use) : Term → Use
  | .path _ => if use = .condition then .dropped else use.within .value
  | _ => use.within .value

end Use

def LogicOp.use : LogicOp → Use
  | .both | .either => .condition
  | .equal | .different => .value
  | .greater | .atLeast | .less | .atMost => .operand

mutual

/-- Whether nothing is asked for where a failure would be dropped. -/
def Expr.keeps (use : Use) : Expr → Bool
  | .mk term _ filters =>
      term.keeps (use.filtered filters) && callsKeep (use.filtering term) filters

def Term.keeps (use : Use) : Term → Bool
  | .math _ left right => left.keeps use.arithmetic && right.keeps use.arithmetic
  | .logic op left right => left.keeps (use.within op.use) && right.keeps (use.within op.use)
  | .test _ _ _ args => exprsKeep (use.within .value) args
  | .macroCall _ _ args => use != .dropped && argsKeep .value args
  | .call call => use != .dropped && call.keeps .value
  | .array items => exprsKeep (use.within .value) items
  | .concat parts => termsKeep (use.within .value) parts
  | .membership item container _ =>
      item.keeps (use.within .value) && container.keeps (use.within .value)
  | .text _ | .whole _ | .real _ | .bool _ | .path _ => true

def Call.keeps (use : Use) : Call → Bool
  | .mk _ args => argsKeep use args

def callsKeep (use : Use) : List Call → Bool
  | [] => true
  | call :: rest => call.keeps use && callsKeep use rest

def exprsKeep (use : Use) : List Expr → Bool
  | [] => true
  | e :: rest => e.keeps use && exprsKeep use rest

def termsKeep (use : Use) : List Term → Bool
  | [] => true
  | term :: rest => term.keeps use && termsKeep use rest

def argsKeep (use : Use) : List (String × Expr) → Bool
  | [] => true
  | (_, e) :: rest => e.keeps use && argsKeep use rest

end

def presetsKeep (params : List (String × Option Expr)) : Bool :=
  params.all fun param =>
    match param.2 with
    | some preset => preset.keeps .value
    | none => true

mutual

def Node.keeps : Node → Bool
  | .show _ e | .assign _ _ e _ => e.keeps .value
  | .define _ _ params body _ => presetsKeep params && nodesKeep body
  | .section _ filter body _ => filter.keeps .value && nodesKeep body
  | .block _ _ body _ => nodesKeep body
  | .loop _ _ _ container body otherwise _ =>
      container.keeps .value && nodesKeep body && optionKeeps otherwise
  | .branch cases otherwise _ => casesKeep cases && elseKeeps otherwise
  | .text _ | .comment _ | .include .. | .inherit .. | .borrow .. | .raw .. | .superBlock
  | .leave _ | .proceed _ => true

def nodesKeep : List Node → Bool
  | [] => true
  | node :: rest => node.keeps && nodesKeep rest

def optionKeeps : Option (List Node) → Bool
  | none => true
  | some nodes => nodesKeep nodes

def elseKeeps : Option (Edges × List Node) → Bool
  | none => true
  | some (_, nodes) => nodesKeep nodes

def casesKeep : List (Edges × Expr × List Node) → Bool
  | [] => true
  | (_, e, nodes) :: rest => e.keeps .condition && nodesKeep nodes && casesKeep rest

end

def Book.keeps (book : Book) : Bool :=
  nodesKeep book.nodes && book.blocks.all (fun entry => nodesKeep entry.2) &&
    book.macros.all fun entry => presetsKeep entry.2.1 && nodesKeep entry.2.2

theorem calls_keep_iff (use : Use) (calls : List Call) :
    callsKeep use calls = true ↔ ∀ call ∈ calls, call.keeps use = true := by
  induction calls with
  | nil => simp [callsKeep]
  | cons call rest ih => simp [callsKeep, ih]

theorem exprs_keep_iff (use : Use) (items : List Expr) :
    exprsKeep use items = true ↔ ∀ e ∈ items, e.keeps use = true := by
  induction items with
  | nil => simp [exprsKeep]
  | cons e rest ih => simp [exprsKeep, ih]

theorem terms_keep_iff (use : Use) (parts : List Term) :
    termsKeep use parts = true ↔ ∀ part ∈ parts, part.keeps use = true := by
  induction parts with
  | nil => simp [termsKeep]
  | cons part rest ih => simp [termsKeep, ih]

theorem args_keep_iff (use : Use) (args : List (String × Expr)) :
    argsKeep use args = true ↔ ∀ arg ∈ args, arg.2.keeps use = true := by
  induction args with
  | nil => simp [argsKeep]
  | cons arg rest ih =>
      obtain ⟨name, e⟩ := arg
      simp only [argsKeep, Bool.and_eq_true, ih, List.forall_mem_cons]

theorem preset_keeps {params : List (String × Option Expr)} (kept : presetsKeep params = true)
    {name : String} {preset : Expr} (member : (name, some preset) ∈ params) :
    preset.keeps .value = true :=
  List.all_eq_true.mp kept (name, some preset) member

namespace Book

variable {book : Book}

theorem nodes_keep (kept : book.keeps = true) : nodesKeep book.nodes = true := by
  simp only [keeps, Bool.and_eq_true] at kept
  exact kept.1.1

theorem block_keeps (kept : book.keeps = true) {name : String} {body : List Node}
    (found : book.blocks.lookup name = some body) : nodesKeep body = true := by
  simp only [keeps, Bool.and_eq_true, List.all_eq_true] at kept
  exact kept.1.2 _ (mem_of_lookup found)

theorem macro_keeps (kept : book.keeps = true) {name : String}
    {params : List (String × Option Expr)} {body : List Node}
    (found : book.macros.lookup name = some (params, body)) :
    presetsKeep params = true ∧ nodesKeep body = true := by
  simp only [keeps, Bool.and_eq_true, List.all_eq_true] at kept
  exact kept.2 _ (mem_of_lookup found)

end Book

/-- What a care asks of something that stands for a use. Only a part that asks for
nothing anywhere is silent. -/
def Care.Fits (care : Care) (keeps : Use → Bool) (use : Use) : Prop :=
  match care with
  | .any => True
  | .firm => keeps use = true
  | .silent => keeps .dropped = true

theorem Care.Fits.of {care : Care} {keeps other : Use → Bool} {use within : Use}
    (fits : care.Fits keeps use) (live : keeps use = true → other within = true)
    (dropped : keeps .dropped = true → other .dropped = true) : care.Fits other within := by
  cases care with
  | any => trivial
  | firm => exact live fits
  | silent => exact dropped fits

theorem Care.Fits.both {care : Care} {keeps other : Use → Bool} {use : Use}
    (fits : care.Fits (fun use => keeps use && other use) use) :
    care.Fits keeps use ∧ care.Fits other use := by
  cases care with
  | any => exact ⟨trivial, trivial⟩
  | firm | silent => exact (Bool.and_eq_true _ _).mp fits

theorem Care.fits_asking {care : Care} {keeps : Use → Bool} {use : Use} (asks : care ≠ .silent)
    (kept : care = .firm → keeps use = true) : care.Fits keeps use := by
  cases care with
  | any => trivial
  | firm => exact kept rfl
  | silent => exact absurd rfl asks

def Expr.Fits (care : Care) (use : Use) (e : Expr) : Prop :=
  care.Fits (fun use => e.keeps use) use

def Term.Fits (care : Care) (use : Use) (term : Term) : Prop :=
  care.Fits (fun use => term.keeps use) use

def ArgsFit (care : Care) (args : List (String × Expr)) : Prop :=
  ∀ arg ∈ args, arg.2.Fits care .value

def ExprsFit (care : Care) (items : List Expr) : Prop := ∀ e ∈ items, e.Fits care .value

variable {care : Care} {use : Use}

theorem args_fit_of {args : List (String × Expr)}
    (fits : care.Fits (fun use => argsKeep use args) .value) : ArgsFit care args := by
  intro arg member
  exact fits.of (fun kept => (args_keep_iff _ _).mp kept arg member)
    (fun kept => (args_keep_iff _ _).mp kept arg member)

theorem exprs_fit_of {items : List Expr}
    (fits : care.Fits (fun use => exprsKeep use items) .value) : ExprsFit care items := by
  intro e member
  exact fits.of (fun kept => (exprs_keep_iff _ _).mp kept e member)
    (fun kept => (exprs_keep_iff _ _).mp kept e member)

namespace Expr

theorem Fits.term {term : Term} {negated : Bool} {filters : List Call}
    (fits : (Expr.mk term negated filters).Fits care use) :
    term.Fits care (use.filtered filters) := by
  have both : care.Fits (fun use => term.keeps (use.filtered filters)) use ∧
      care.Fits (fun use => callsKeep (use.filtering term) filters) use := Care.Fits.both fits
  exact both.1.of id id

theorem filtering_value (term : Term) : Use.filtering .value term = .value := by
  cases term <;> rfl

theorem filtering_dropped (term : Term) : Use.filtering .dropped term = .dropped := by
  cases term <;> rfl

/-- The filters of an expression that stands for a value. -/
theorem Fits.filters {term : Term} {negated : Bool} {filters : List Call}
    (fits : (Expr.mk term negated filters).Fits care .value) :
    ∀ filter ∈ filters, ArgsFit care filter.args := by
  intro filter member
  obtain ⟨name, args⟩ := filter
  apply args_fit_of
  apply fits.of
  · intro kept
    rw [Expr.keeps, Bool.and_eq_true, filtering_value, calls_keep_iff] at kept
    exact kept.2 _ member
  · intro kept
    rw [Expr.keeps, Bool.and_eq_true, filtering_dropped, calls_keep_iff] at kept
    exact kept.2 _ member

/-- Outside arithmetic and variables, an expression fits as a condition if and only
if it fits as a value. -/
theorem fits_condition_iff {term : Term} {negated : Bool} {filters : List Call}
    (same : term.keeps .condition = term.keeps .value)
    (tested : Use.filtering .condition term = .value) :
    (Expr.mk term negated filters).Fits care .condition ↔
      (Expr.mk term negated filters).Fits care .value := by
  have equal : (Expr.mk term negated filters).keeps .condition =
      (Expr.mk term negated filters).keeps .value := by
    simp only [Expr.keeps, tested, filtering_value]
    exact congrArg (· && callsKeep .value filters) same
  cases care with
  | any => exact Iff.rfl
  | firm => exact iff_of_eq (congrArg (· = true) equal)
  | silent => exact Iff.rfl

/-- A variable that is tested for truth asks for nothing. -/
theorem Fits.tested {path : String} {negated : Bool} {filters : List Call}
    (fits : (Expr.mk (.path path) negated filters).Fits care .condition) (kept : care ≠ .any) :
    (Expr.mk (.path path) negated filters).Fits .silent .value := by
  cases care with
  | any => exact absurd rfl kept
  | firm => exact fits
  | silent => exact fits

theorem Fits.operand {term : Term} {negated : Bool} {filters : List Call}
    (fits : (Expr.mk term negated filters).Fits care .operand) (given : filters ≠ []) :
    (Expr.mk term negated filters).Fits care .value := by
  have filtering : Use.filtering .operand term = .value := by cases term <;> rfl
  have filtered : Use.filtered .operand filters = .value := by simp [Use.filtered, given]
  apply fits.of
  · intro kept
    rw [Expr.keeps, filtering, filtered] at kept
    rw [Expr.keeps, filtering_value]
    exact kept
  · exact id

end Expr

namespace Term

variable {op : MathOp} {left right : Expr}

theorem Fits.sides (fits : (Term.math op left right).Fits care .operand) :
    left.Fits care .operand ∧ right.Fits care .operand := by
  obtain ⟨first, second⟩ := Care.Fits.both fits
  exact ⟨first.of id id, second.of id id⟩

/-- Arithmetic that stands for a value asks for nothing. -/
theorem Fits.reduced (fits : (Term.math op left right).Fits care .value) (kept : care ≠ .any) :
    (Term.math op left right).Fits .silent .operand := by
  cases care with
  | any => exact absurd rfl kept
  | firm => exact fits
  | silent => exact fits

theorem Fits.compared {op : LogicOp} (fits : (Term.logic op left right).Fits care .condition) :
    left.Fits care op.use ∧ right.Fits care op.use := by
  obtain ⟨first, second⟩ := Care.Fits.both fits
  exact ⟨first.of id id, second.of id id⟩

/-- Apart from arithmetic and connectives, a term is the same for a value and for a
condition. -/
theorem Fits.membership {item container : Expr} {negated : Bool}
    (fits : (Term.membership item container negated).Fits care use) (live : use ≠ .dropped) :
    item.Fits care .value ∧ container.Fits care .value := by
  have within : use.within .value = .value := if_neg live
  obtain ⟨first, second⟩ := Care.Fits.both fits
  constructor
  · apply first.of
    · intro kept
      rw [within] at kept
      exact kept
    · exact id
  · apply second.of
    · intro kept
      rw [within] at kept
      exact kept
    · exact id

theorem Fits.test {path name : String} {negated : Bool} {args : List Expr}
    (fits : (Term.test path negated name args).Fits care use) (live : use ≠ .dropped) :
    ExprsFit care args := by
  have within : use.within .value = .value := if_neg live
  apply exprs_fit_of
  apply fits.of
  · intro kept
    rw [Term.keeps, within] at kept
    exact kept
  · exact id

theorem Fits.array {items : List Expr} (fits : (Term.array items).Fits care .value) :
    ExprsFit care items :=
  exprs_fit_of (fits.of id id)

theorem Fits.concat {parts : List Term} (fits : (Term.concat parts).Fits care .value) :
    ∀ part ∈ parts, part.Fits care .value := by
  intro part member
  exact fits.of (fun kept => (terms_keep_iff .value parts).mp kept part member)
    (fun kept => (terms_keep_iff .dropped parts).mp kept part member)

theorem Fits.called {args : List (String × Expr)}
    (fits : care.Fits (fun use => use != .dropped && argsKeep .value args) use) :
    care ≠ .silent ∧ ArgsFit care args := by
  cases care with
  | any => exact ⟨by decide, fun _ _ => trivial⟩
  | firm =>
      refine ⟨by decide, args_fit_of ?_⟩
      exact ((Bool.and_eq_true _ _).mp fits).2
  | silent =>
      have live := ((Bool.and_eq_true _ _).mp fits).1
      exact absurd live (by decide)

theorem Fits.call {call : Call} (fits : (Term.call call).Fits care use) :
    care ≠ .silent ∧ ArgsFit care call.args := by
  obtain ⟨name, args⟩ := call
  exact Fits.called fits

theorem Fits.macro_call {space name : String} {args : List (String × Expr)}
    (fits : (Term.macroCall space name args).Fits care use) :
    care ≠ .silent ∧ ArgsFit care args :=
  Fits.called fits

end Term

end Stencil.Markup
