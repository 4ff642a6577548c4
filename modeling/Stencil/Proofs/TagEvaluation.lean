import Stencil.Proofs.PageReading
import Stencil.Proofs.PageSteps

/-!
What a page does for a tag. The arguments of a tag are literals, so their values are there
without a question, and all that the tag does is its one request. What is printed for it
goes before what the rest of the page prints.
-/

namespace Stencil.Markup

theorem eval_expr_literal (book : Book) (levels : Nat) (literal : Literal) :
    evalExpr book (levels + 1) (literalExpr literal) = pure literal.value := by
  cases literal with
  | text quoted =>
      rw [evalExpr]
      rfl
  | whole minus size =>
      rw [evalExpr]
      rfl

theorem eval_expr_literals (book : Book) (levels : Nat) (literals : List Literal) :
    (literals.map literalExpr).mapM (evalExpr book (levels + 1)) =
      pure (literals.map Literal.value) := by
  induction literals with
  | nil => rfl
  | cons literal rest ih =>
      rw [List.map_cons, List.mapM_cons, eval_expr_literal, ih]
      rfl

theorem eval_expr_argument (book : Book) (levels : Nat) (argument : Argument) :
    evalExpr book (levels + 2) (argumentExpr argument) = pure argument.value := by
  cases argument with
  | one literal => exact eval_expr_literal book (levels + 1) literal
  | many literals =>
      rw [argumentExpr, evalExpr]
      simp only [Expr.ofTerm, Expr.term, eval_expr_literals]
      rfl

theorem eval_args_arguments (book : Book) (levels : Nat) (arguments : List (String × Argument)) :
    evalArgs book (levels + 3) (arguments.map namedExpr) =
      pure (arguments.map fun argument => (argument.1, argument.2.value)) := by
  rw [evalArgs]
  induction arguments with
  | nil => rfl
  | cons argument rest ih =>
      rw [List.map_cons, List.mapM_cons, ih]
      simp only [namedExpr, eval_expr_argument]
      rfl

theorem function_c : function? "c" = some readKey := by simp [function?]

theorem function_f : function? "f" = some callOut := by simp [function?]

def answered (asking : Asking) : Except Fault Value → Except Fault Value
  | .ok value => .ok value
  | .error fault => .error (asking.refused fault)

theorem read_key_given (key : String) (preset : Option Value) (scope : Scope) :
    (readKey (("key", .string key) ::
      (preset.map fun value => ("default", value)).toList)).run.run scope =
      (Dialog.askValue key preset).bind fun reply =>
        .done (answered (.value key preset) reply, scope) := by
  have named : Fields.get? (("key", .string key) ::
      (preset.map fun value => ("default", value)).toList) "key" = some (.string key) := rfl
  have fallen : Fields.get? (("key", .string key) ::
      (preset.map fun value => ("default", value)).toList) "default" = preset := by
    cases preset <;> rfl
  rw [readKey, named, fallen]
  apply congrArg (Dialog.lookup key preset)
  funext reply
  cases reply <;> rfl

theorem call_out_given (name : String) (given : Given) (scope : Scope) :
    (callOut (("name", .string name) ::
      (given.argument?.map fun args => ("args", args.value)).toList)).run.run scope =
      (Dialog.askCall name given.values).bind fun reply =>
        .done (answered (.call name given.values) reply, scope) := by
  have replied : ∀ reply : Except Fault Value,
      ((match reply with
        | .ok value => pure value
        | .error fault => throw (.stage ("\x60f\x60 could not invoke \"" ++ name ++ "\"")
            (.forwarded fault)) : Page Value).run.run scope) =
        .done (answered (.call name given.values) reply, scope) := by
    intro reply
    cases reply <;> rfl
  cases given with
  | nothing => exact congrArg (Dialog.invoke name []) (funext replied)
  | one literal =>
      cases literal with
      | text quoted => exact congrArg (Dialog.invoke name [.string quoted.text]) (funext replied)
      | whole minus size =>
          exact congrArg (Dialog.invoke name [(Literal.whole minus size).value]) (funext replied)
  | many literals =>
      exact congrArg (Dialog.invoke name (literals.map Literal.value)) (funext replied)

theorem run_within {α : Type} (step : String) (act : Page α) (scope : Scope) :
    (Page.within step act).run.run scope = (act.run.run scope).bind fun answer =>
      .done (match answer.1 with
        | .ok result => .ok result
        | .error fault => .error (.stage step fault), answer.2) := by
  have opened : (Page.within step act).run.run scope =
      ((act.run.run scope >>= fun answer => pure (Except.ok answer.1, answer.2)) >>=
        fun answer => (ExceptT.bindCont (fun outcome : Except Fault α => (match outcome with
          | .ok result => pure result
          | .error fault => throw (.stage step fault) : Page α)) answer.1).run answer.2) := rfl
  rw [opened, bind_assoc]
  apply congrArg ((act.run.run scope).bind)
  funext answer
  obtain ⟨outcome, later⟩ := answer
  cases outcome <;> rfl

def completed (tag : Tag) (reply : Except Fault Value) : Except Fault Value :=
  match answered tag.asking reply with
  | .ok value => .ok value
  | .error fault => .error (.stage ("Function call '" ++ tag.tool ++ "' failed") fault)

theorem eval_call_tag (book : Book) (levels : Nat) (tag : Tag) (scope : Scope) :
    (evalCall book (levels + 4) (tagCall tag)).run.run scope =
      tag.asking.dialog.bind fun reply => .done (completed tag reply, scope) := by
  cases tag with
  | read key preset =>
      have fields : ((Tag.read key preset).arguments.map fun argument =>
          (argument.1, argument.2.value)) = ("key", .string key.text) ::
            ((preset.map Literal.value).map fun value => ("default", value)).toList := by
        cases preset <;> rfl
      rw [evalCall]
      simp only [tagCall, Call.name, Call.args, Tag.tool, function_c, eval_args_arguments, fields]
      rw [run_within, pure_bind, read_key_given]
      apply congrArg (Dialog.lookup key.text (preset.map Literal.value))
      funext reply
      cases reply <;> rfl
  | call name given =>
      have fields : ((Tag.call name given).arguments.map fun argument =>
          (argument.1, argument.2.value)) = ("name", .string name.text) ::
            (given.argument?.map fun args => ("args", args.value)).toList := by
        cases given <;> rfl
      rw [evalCall]
      simp only [tagCall, Call.name, Call.args, Tag.tool, function_f, eval_args_arguments, fields]
      rw [run_within, pure_bind, call_out_given]
      apply congrArg (Dialog.invoke name.text given.values)
      funext reply
      cases reply <;> rfl

theorem eval_expr_tag (book : Book) (levels : Nat) (tag : Tag) (scope : Scope) :
    (evalExpr book (levels + 5) (tagExpr tag)).run.run scope =
      tag.asking.dialog.bind fun reply => .done (completed tag reply, scope) := by
  rw [← eval_call_tag book levels, evalExpr]
  have plain : (evalCall book (levels + 4) (tagCall tag) >>= fun value => pure value) =
      evalCall book (levels + 4) (tagCall tag) := bind_pure _
  exact congrArg (fun act : Page Value => act.run.run scope) plain

def printedBefore (s : String) (answer : Except Fault String × Scope) :
    Except Fault String × Scope :=
  (answer.1.map (s ++ ·), answer.2)

theorem run_bind {α β : Type} (act : Page α) (next : α → Page β) (scope : Scope) :
    (act >>= next).run.run scope = (act.run.run scope).bind fun answer =>
      (ExceptT.bindCont next answer.1).run answer.2 := rfl

theorem run_after (s : String) (act : Page String) (scope : Scope) :
    (do return s ++ (← act) : Page String).run.run scope =
      (act.run.run scope).bind fun answer => .done (printedBefore s answer) := by
  rw [run_bind]
  apply congrArg ((act.run.run scope).bind)
  funext answer
  obtain ⟨outcome, later⟩ := answer
  cases outcome <;> rfl

theorem render_node_tag (book : Book) (levels : Nat) (edges : Edges) (tag : Tag) (scope : Scope) :
    (renderNode book (levels + 6) (.show edges (tagExpr tag))).run.run scope =
      tag.asking.dialog.bind fun reply => .done ((completed tag reply).map printed, scope) := by
  have opened : (renderNode book (levels + 6) (.show edges (tagExpr tag))) =
      (do return printed (← evalExpr book (levels + 5) (tagExpr tag))) := by rw [renderNode]
  rw [opened, run_bind, eval_expr_tag, Dialog.bind_bind]
  apply congrArg tag.asking.dialog.bind
  funext reply
  cases reply <;> rfl

theorem render_page_text (book : Book) (s : String) (rest : List Node) (scope : Scope) :
    (renderPage book (.text s :: rest)).run.run scope =
      ((renderPage book rest).run.run scope).bind fun answer => .done (printedBefore s answer) := by
  have text : renderNode book maxLevels (.text s) = pure s := by
    rw [maxLevels, renderNode]
  rw [← run_after, renderPage, text]
  rfl

def pageAfter (book : Book) (rest : List Node) (answer : Except Fault String × Scope) :
    Dialog (Except Fault String × Scope) :=
  match answer.1 with
  | .ok output => (do return output ++ (← renderPage book rest) : Page String).run.run answer.2
  | .error fault => .done (.error (.stage answer.2.placement fault), answer.2)

theorem render_page_tag (book : Book) (edges : Edges) (tag : Tag) (rest : List Node)
    (scope : Scope) :
    (renderPage book (.show edges (tagExpr tag) :: rest)).run.run scope =
      tag.asking.dialog.bind fun reply => match completed tag reply with
        | .ok value => ((renderPage book rest).run.run scope).bind fun answer =>
            .done (printedBefore (printed value) answer)
        | .error fault => .done (.error (.stage scope.placement fault), scope) := by
  have opened : (renderPage book (.show edges (tagExpr tag) :: rest)).run.run scope =
      ((renderNode book maxLevels (.show edges (tagExpr tag))).run.run scope).bind
        (pageAfter book rest) := by
    rw [renderPage, run_bind]
    have caught : (Page.attempt (renderNode book maxLevels (.show edges (tagExpr tag)))).run.run
        scope = ((renderNode book maxLevels (.show edges (tagExpr tag))).run.run scope).bind
          fun answer => .done (.ok answer.1, answer.2) := rfl
    rw [caught, Dialog.bind_bind]
    apply congrArg (Dialog.bind _)
    funext answer
    obtain ⟨outcome, later⟩ := answer
    cases outcome <;> rfl
  rw [opened, maxLevels, render_node_tag, Dialog.bind_bind]
  apply congrArg tag.asking.dialog.bind
  funext reply
  cases ended : completed tag reply with
  | ok value => exact run_after (printed value) (renderPage book rest) scope
  | error fault => rfl

end Stencil.Markup
