import Stencil.Markup.Syntax
import Stencil.Unicode.Blank

/-!
White space at the edges of tags. A dash at an edge of a tag cuts the white
space off the text beside it. Text that becomes empty disappears.
-/

namespace Stencil.Markup

def cutLast (nodes : List Node) : List Node :=
  match nodes.getLast? with
  | some (.text s) =>
      let cut := Unicode.trimRight s.toList
      if cut.isEmpty then nodes.dropLast else nodes.dropLast ++ [.text (String.ofList cut)]
  | _ => nodes

def outerEdges : Node → Option Edges
  | .show edges _ | .comment edges | .assign edges .. | .include edges .. | .inherit edges _
  | .borrow edges _ | .leave edges | .proceed edges => some edges
  | .raw start _ finish | .define start _ _ _ finish | .section start _ _ finish
  | .block start _ _ finish | .loop start _ _ _ _ _ finish => some ⟨start.left, finish.right⟩
  | .branch ((edges, _) :: _) _ finish => some ⟨edges.left, finish.right⟩
  | .branch [] _ finish => some ⟨false, finish.right⟩
  | .text _ | .superBlock => none

/-- What the walk over a row of nodes remembers: the nodes so far, whether the
one before was text, and whether the next text loses its beginning. -/
structure TrimState where
  done : List Node
  afterText : Bool
  cutNext : Bool

def trimStep (state : TrimState) (node : Node) : TrimState :=
  match node with
  | .text s =>
      if state.cutNext then
        let cut := Unicode.trimLeft s.toList
        let done := if cut.isEmpty then state.done
          else state.done ++ [.text (String.ofList cut)]
        ⟨done, true, false⟩
      else ⟨state.done ++ [node], true, false⟩
  | _ =>
      match outerEdges node with
      | some edges =>
          let done := if state.afterText && edges.left then cutLast state.done else state.done
          ⟨done ++ [node], false, edges.right⟩
      | none => ⟨state.done ++ [node], false, state.cutNext⟩

def trimRow (inside : Edges) (nodes : List Node) : List Node :=
  let state := nodes.foldl trimStep ⟨[], false, inside.left⟩
  if inside.right then cutLast state.done else state.done

/-- Each case of a branch loses the white space at its end if the next tag asks
for it. -/
def trimCaseEnds (last : Bool) :
    List (Edges × Expr × List Node) → List (Edges × Expr × List Node)
  | [] => []
  | [(edges, e, body)] => [(edges, e, if last then cutLast body else body)]
  | (edges, e, body) :: next :: rest =>
      (edges, e, if next.1.left then cutLast body else body) ::
        trimCaseEnds last (next :: rest)

def trimRaw (start finish : Edges) (s : String) : String :=
  let chars := s.toList
  let chars := if start.right then Unicode.trimLeft chars else chars
  String.ofList (if finish.left then Unicode.trimRight chars else chars)

mutual

def trimInside : Node → Node
  | .raw start s finish => .raw start (trimRaw start finish s) finish
  | .define start name params body finish =>
      .define start name params (trimRow ⟨start.right, finish.left⟩ (trimEach body)) finish
  | .section start filter body finish =>
      .section start filter (trimRow ⟨start.right, finish.left⟩ (trimEach body)) finish
  | .block start name body finish =>
      .block start name (trimRow ⟨start.right, finish.left⟩ (trimEach body)) finish
  | .loop start key item container body otherwise finish =>
      .loop start key item container (trimRow ⟨start.right, finish.left⟩ (trimEach body))
        otherwise finish
  | .branch cases otherwise finish =>
      let cases := trimCases cases
      match otherwise with
      | some (edges, body) =>
          .branch (trimCaseEnds edges.left cases)
            (some (edges, trimRow ⟨edges.right, finish.left⟩ (trimEach body))) finish
      | none => .branch (trimCaseEnds finish.left cases) none finish
  | node => node

def trimEach : List Node → List Node
  | [] => []
  | node :: rest => trimInside node :: trimEach rest

def trimCases : List (Edges × Expr × List Node) → List (Edges × Expr × List Node)
  | [] => []
  | (edges, e, body) :: rest =>
      (edges, e, trimRow ⟨edges.right, false⟩ (trimEach body)) :: trimCases rest

end

def trimPage (nodes : List Node) : List Node := trimRow ⟨false, false⟩ (trimEach nodes)

end Stencil.Markup
