import Stencil.Proofs.TagReading

/-!
Reading pages of pieces back. The page that is written for plain pieces is read as their
nodes, with texts side by side made one, and the nodes are bound as they are: there is
nothing to trim, to inherit or to borrow, and every number fits.
-/

namespace Stencil.Markup

namespace Grammar

theorem skip_tag (tag : Tag) (rest : List Char) : skip (tag.chars ++ rest) = tag.chars ++ rest := by
  have named := skip_name tag.tool (arguments_named tag).1
    ('(' :: (separated (tag.arguments.map argumentChars) ++ ')' :: rest))
  have shape : tag.chars ++ rest = tag.tool.toList ++
      '(' :: (separated (tag.arguments.map argumentChars) ++ ')' :: rest) := by
    simp [Tag.chars]
  rw [shape, named]

theorem chars_ask (tag : Tag) (rest : List Char) : (Piece.ask tag).chars ++ rest =
    '\x7b' :: '\x7b' :: ' ' :: (tag.chars ++ ' ' :: '\x7d' :: '\x7d' :: rest) := by
  simp [Piece.chars]

theorem node_tag (tag : Tag) (plain : (Piece.ask tag).Plain) {levels : Nat}
    (enough : tag.chars.length + 22 ≤ levels) (rest : List Char) :
    node levels .top ((Piece.ask tag).chars ++ rest) =
      some (.show ⟨false, false⟩ (tagExpr tag), rest) := by
  obtain ⟨n, rfl⟩ : ∃ n, levels = n + 1 := ⟨levels - 1, by omega⟩
  have closed : Closed (' ' :: '\x7d' :: '\x7d' :: rest) :=
    ⟨'\x7d', by decide, '\x7d' :: rest, rfl⟩
  have read : value n (' ' :: (tag.chars ++ ' ' :: '\x7d' :: '\x7d' :: rest)) =
      some (tagExpr tag, ' ' :: '\x7d' :: '\x7d' :: rest) :=
    value_tag tag plain (by omega) closed (skip_tag tag _)
  have opened : showStart
      ('\x7b' :: '\x7b' :: ' ' :: (tag.chars ++ ' ' :: '\x7d' :: '\x7d' :: rest)) =
      some (false, ' ' :: (tag.chars ++ ' ' :: '\x7d' :: '\x7d' :: rest)) := rfl
  have shut : showEnd (' ' :: '\x7d' :: '\x7d' :: rest) = some (false, rest) := rfl
  rw [chars_ask, node, showNode, opened]
  simp [read, shut]

def Ends (input : List Char) : Prop := input = [] ∨ ∃ rest, input = '\x7b' :: '\x7b' :: rest

theorem plain_text_held (held : List Char) (clean : '\x7b' ∉ held) (rest : List Char) :
    plainText (held ++ rest) = (held ++ (plainText rest).1, (plainText rest).2) := by
  induction held with
  | nil => rfl
  | cons c held ih =>
      simp only [List.mem_cons, not_or] at clean
      rw [List.cons_append, plainText]
      · rw [ih clean.2]
        rfl
      · intro d after same
        exact absurd same.symm clean.1

theorem plain_text_ends {rest : List Char} (ends : Ends rest) : plainText rest = ([], rest) := by
  rcases ends with rfl | ⟨after, rfl⟩
  · rfl
  · rw [plainText]
    rfl

theorem node_text (held : List Char) (clean : '\x7b' ∉ held) (more : held ≠ []) (levels : Nat)
    (enough : 1 ≤ levels) {rest : List Char} (ends : Ends rest) :
    node levels .top (held ++ rest) = some (.text (String.ofList held), rest) := by
  obtain ⟨n, rfl⟩ : ∃ n, levels = n + 1 := ⟨levels - 1, by omega⟩
  have read := plain_text_held held clean rest
  rw [plain_text_ends ends, List.append_nil] at read
  cases held with
  | nil => exact absurd rfl more
  | cons c held =>
      have other : c ≠ '\x7b' := fun same => clean (same ▸ List.mem_cons_self)
      rw [List.cons_append] at read ⊢
      rw [node]
      · rw [read]
      · exact fun _ same => other (List.cons.inj same).1
      · exact fun _ same => other (List.cons.inj same).1
      · exact fun _ same => other (List.cons.inj same).1
      · nofun

theorem node_end (levels : Nat) : node levels .top [] = none := by
  cases levels with
  | zero => rw [node]
  | succ levels => rw [node]

/-- One case for each kind of piece; text is held until a tag or the end comes. -/
theorem nodes_written (pieces : List Piece) (plain : ∀ piece ∈ pieces, piece.Plain)
    (held : List Char) (clean : '\x7b' ∉ held) (levels : Nat)
    (enough : held.length + (pieces.flatMap Piece.chars).length + 24 ≤ levels) :
    nodes levels .top (held ++ pieces.flatMap Piece.chars) = (pieceNodes held pieces, []) := by
  induction pieces generalizing held levels with
  | nil =>
      obtain ⟨n, rfl⟩ : ∃ n, levels = n + 2 := ⟨levels - 2, by omega⟩
      rw [List.flatMap_nil, List.append_nil]
      by_cases empty : held = []
      · subst empty
        rw [nodes, node_end]
        rfl
      · have read := node_text held clean empty (n + 1) (by omega) (.inl rfl)
        rw [List.append_nil] at read
        rw [nodes, read]
        simp [nodes, node_end, pieceNodes, textNodes, empty]
  | cons piece rest ih =>
      have further : ∀ piece ∈ rest, piece.Plain :=
        fun piece inside => plain piece (List.mem_cons_of_mem _ inside)
      cases piece with
      | text s =>
          obtain ⟨open_, _⟩ := plain _ List.mem_cons_self
          have joined : '\x7b' ∉ held ++ s.toList := by simp [clean, open_]
          rw [List.flatMap_cons, ← List.append_assoc]
          apply ih further _ joined
          simp only [List.flatMap_cons, List.length_append, Piece.chars] at enough
          simp only [List.length_append]
          omega
      | ask tag =>
          have size : (Piece.ask tag).chars.length = tag.chars.length + 6 := by
            simp [Piece.chars]
          simp only [List.flatMap_cons, List.length_append, size] at enough
          have own := plain _ List.mem_cons_self
          have tagged : ∀ n, tag.chars.length + 24 + (rest.flatMap Piece.chars).length ≤ n →
              nodes (n + 1) .top ((Piece.ask tag).chars ++ rest.flatMap Piece.chars) =
                (.show ⟨false, false⟩ (tagExpr tag) :: pieceNodes [] rest, []) := by
            intro n bound
            have later := ih further [] List.not_mem_nil n
              (by simp only [List.length_nil]; omega)
            rw [List.nil_append] at later
            rw [nodes, node_tag tag own (by omega)]
            simp [later]
          obtain ⟨n, rfl⟩ : ∃ n, levels = n + 2 := ⟨levels - 2, by omega⟩
          rw [List.flatMap_cons]
          by_cases empty : held = []
          · subst empty
            exact tagged (n + 1) (by omega)
          · have read := node_text held clean empty (n + 1) (by omega)
              (.inr ⟨_, chars_ask tag (rest.flatMap Piece.chars)⟩)
            rw [nodes, read]
            simp [tagged n (by omega), pieceNodes, textNodes, empty]

/-- A page of pieces begins with text or a tag, and the text before the first tag ends
where a tag or the end is. -/
theorem plain_text_pieces (pieces : List Piece) (plain : ∀ piece ∈ pieces, piece.Plain) :
    ∃ s rest, plainText (pieces.flatMap Piece.chars) = (s, rest) ∧ Ends rest := by
  induction pieces with
  | nil => exact ⟨[], [], rfl, .inl rfl⟩
  | cons piece pieces ih =>
      cases piece with
      | text s =>
          obtain ⟨open_, _⟩ := plain _ List.mem_cons_self
          obtain ⟨more, rest, read, ends⟩ :=
            ih fun piece inside => plain piece (List.mem_cons_of_mem _ inside)
          refine ⟨s.toList ++ more, rest, ?_, ends⟩
          rw [List.flatMap_cons, Piece.chars, plain_text_held _ open_, read]
      | ask tag =>
          have shape := chars_ask tag (pieces.flatMap Piece.chars)
          refine ⟨[], (Piece.ask tag).chars ++ pieces.flatMap Piece.chars, ?_, .inr ⟨_, shape⟩⟩
          exact plain_text_ends (.inr ⟨_, shape⟩)

theorem pieces_begin (pieces : List Piece) (plain : ∀ piece ∈ pieces, piece.Plain) {d : Char}
    (other : d ≠ '\x7b') (rest : List Char) :
    pieces.flatMap Piece.chars ≠ '\x7b' :: d :: rest := by
  induction pieces with
  | nil => nofun
  | cons piece pieces ih =>
      have further := ih fun piece inside => plain piece (List.mem_cons_of_mem _ inside)
      intro same
      rw [List.flatMap_cons] at same
      cases piece with
      | text s =>
          obtain ⟨open_, _⟩ := plain _ List.mem_cons_self
          rw [Piece.chars] at same
          cases shape : s.toList with
          | nil => exact further (by rw [← same, shape]; rfl)
          | cons c chars =>
              rw [shape, List.cons_append] at same
              exact open_ (by rw [shape, (List.cons.inj same).1]; exact List.mem_cons_self)
      | ask tag =>
          rw [chars_ask] at same
          exact other (List.cons.inj (List.cons.inj same).2).1.symm

theorem tag_start_none {input : List Char} (no : ∀ rest, input ≠ '\x7b' :: '%' :: rest) :
    tagStart input = none := by
  unfold tagStart
  split
  · exact absurd rfl (no _)
  · exact absurd rfl (no _)
  · rfl

theorem comment_none {input : List Char} (no : ∀ rest, input ≠ '\x7b' :: '#' :: rest) :
    comment input = none := by
  unfold comment
  split
  · exact absurd rfl (no _)
  · exact absurd rfl (no _)
  · rfl

theorem page_written (pieces : List Piece) (plain : ∀ piece ∈ pieces, piece.Plain) :
    page (pageOf pieces) = some (pieceNodes [] pieces) := by
  have chars : (pageOf pieces).toList = pieces.flatMap Piece.chars := String.toList_ofList
  have size : (pageOf pieces).length = (pieces.flatMap Piece.chars).length := by
    rw [← String.length_toList, chars]
  have noComment : comment (pieces.flatMap Piece.chars) = none :=
    comment_none (pieces_begin pieces plain (by decide))
  have noTag : tagStart (pieces.flatMap Piece.chars) = none :=
    tag_start_none (pieces_begin pieces plain (by decide))
  have comments : leadingComments (pageOf pieces).length (pieces.flatMap Piece.chars) =
      pieces.flatMap Piece.chars := by
    cases (pageOf pieces).length with
    | zero => rw [leadingComments]
    | succ fuel => rw [leadingComments, noComment]
  have noParent : inheritance (pieces.flatMap Piece.chars) = none := by
    rw [inheritance, fullTag, noTag]
    rfl
  have noLender : borrowings (pageOf pieces).length (pieces.flatMap Piece.chars) =
      ([], pieces.flatMap Piece.chars) := by
    obtain ⟨s, rest, read, ends⟩ := plain_text_pieces pieces plain
    have stops : tagStart rest = none := by
      rcases ends with rfl | ⟨after, rfl⟩ <;> rfl
    have noBorrowing : borrowing rest = none := by
      rw [borrowing, fullTag, stops]
      rfl
    cases (pageOf pieces).length with
    | zero => rw [borrowings]
    | succ fuel =>
        rw [borrowings, read]
        simp [noBorrowing]
  have body := nodes_written pieces plain [] List.not_mem_nil
    (16 * (pageOf pieces).length + 64) (by simp only [List.length_nil]; omega)
  rw [List.nil_append] at body
  rw [page, chars, comments, noParent]
  simp [noLender, body]

end Grammar

/-! From the nodes to the book. -/

theorem wholes_literal (literal : Literal) (plain : literal.Plain) :
    ∀ n ∈ (literalExpr literal).wholes, Whole.clampSigned n = n := by
  cases literal with
  | text quoted => exact nofun
  | whole minus size =>
      obtain ⟨lower, upper⟩ := plain
      intro n inside
      rw [literalExpr, Expr.ofTerm, Expr.wholes, literalTerm, Term.wholes, wholesOfCalls,
        List.append_nil] at inside
      rw [List.mem_singleton.mp inside, Whole.clampSigned, if_neg (by omega), if_neg (by omega)]

theorem wholes_argument (argument : Argument) (plain : argument.Plain) :
    ∀ n ∈ (argumentExpr argument).wholes, Whole.clampSigned n = n := by
  cases argument with
  | one literal => exact wholes_literal literal plain
  | many literals =>
      rw [argumentExpr, Expr.ofTerm, Expr.wholes, Term.wholes, wholesOfCalls, List.append_nil]
      rw [Argument.Plain] at plain
      induction literals with
      | nil =>
          intro n inside
          cases inside
      | cons literal rest ih =>
          intro n inside
          rw [List.map_cons, wholesOfExprs] at inside
          rcases List.mem_append.mp inside with first | later
          · exact wholes_literal literal (plain literal List.mem_cons_self) n first
          · exact ih (fun other member => plain other (List.mem_cons_of_mem _ member)) n later

theorem wholes_tag (tag : Tag) (plain : (Piece.ask tag).Plain) :
    ∀ n ∈ (tagExpr tag).wholes, Whole.clampSigned n = n := by
  rw [Piece.Plain] at plain
  rw [tagExpr, Expr.ofTerm, Expr.wholes, Term.wholes, tagCall, Call.wholes, wholesOfCalls,
    List.append_nil]
  generalize tag.arguments = arguments at plain
  induction arguments with
  | nil =>
      intro n inside
      cases inside
  | cons argument rest ih =>
      intro n inside
      rw [List.map_cons, wholesOfArgs] at inside
      rcases List.mem_append.mp inside with first | later
      · exact wholes_argument argument.2 (plain argument List.mem_cons_self) n first
      · exact ih (fun other member => plain other (List.mem_cons_of_mem _ member)) n later

/-- A node with numbers that fit and nothing to trim, to fill in or to fetch. -/
def Node.Simple : Node → Prop
  | .text _ => True
  | .show edges e => edges = ⟨false, false⟩ ∧ ∀ n ∈ e.wholes, Whole.clampSigned n = n
  | _ => False

theorem text_nodes_simple (held : List Char) : ∀ node ∈ textNodes held, node.Simple := by
  intro node inside
  unfold textNodes at inside
  split at inside
  · cases inside
  · rw [List.mem_singleton.mp inside]
    trivial

theorem piece_nodes_simple (pieces : List Piece) (plain : ∀ piece ∈ pieces, piece.Plain)
    (held : List Char) : ∀ node ∈ pieceNodes held pieces, node.Simple := by
  induction pieces generalizing held with
  | nil => exact text_nodes_simple held
  | cons piece pieces ih =>
      have further := ih fun piece inside => plain piece (List.mem_cons_of_mem _ inside)
      cases piece with
      | text s => exact further _
      | ask tag =>
          intro node inside
          rcases List.mem_append.mp inside with before | after
          · exact text_nodes_simple held node before
          · rcases List.mem_cons.mp after with same | later
            · rw [same]
              exact ⟨rfl, wholes_tag tag (plain _ List.mem_cons_self)⟩
            · exact further [] node later

theorem trim_each_simple (nodes : List Node) (simple : ∀ node ∈ nodes, node.Simple) :
    trimEach nodes = nodes := by
  induction nodes with
  | nil => rfl
  | cons node rest ih =>
      rw [trimEach, ih fun other inside => simple other (List.mem_cons_of_mem _ inside)]
      cases node with
      | text s => rw [trimInside] <;> nofun
      | «show» edges e => rw [trimInside] <;> nofun
      | _ => exact (simple _ List.mem_cons_self).elim

theorem trim_page_simple (nodes : List Node) (simple : ∀ node ∈ nodes, node.Simple) :
    trimPage nodes = nodes := by
  have walk : ∀ done afterText, (nodes.foldl trimStep ⟨done, afterText, false⟩).done =
      done ++ nodes := by
    induction nodes with
    | nil => simp
    | cons node rest ih =>
        intro done afterText
        have further := ih fun other inside => simple other (List.mem_cons_of_mem _ inside)
        rw [List.foldl_cons]
        cases node with
        | text s => simp [trimStep, further]
        | «show» edges e =>
            obtain ⟨same, _⟩ := simple _ List.mem_cons_self
            subst same
            simp [trimStep, outerEdges, further]
        | _ => exact (simple _ List.mem_cons_self).elim
  rw [trimPage, trim_each_simple nodes simple, trimRow]
  simp [walk]

theorem bind_simple (nodes : List Node) (simple : ∀ node ∈ nodes, node.Simple) :
    (∀ n ∈ wholesOfNodes nodes, Whole.clampSigned n = n) ∧ blocksOf nodes = [] ∧
      macrosOf nodes = [] ∧ nodes.findSome? unreachable = none := by
  induction nodes with
  | nil => exact ⟨nofun, rfl, rfl, rfl⟩
  | cons node rest ih =>
      obtain ⟨fit, noBlocks, noMacros, reachable⟩ :=
        ih fun other inside => simple other (List.mem_cons_of_mem _ inside)
      cases node with
      | text s =>
          exact ⟨fit, noBlocks, noMacros, reachable⟩
      | «show» edges e =>
          obtain ⟨_, own⟩ := simple _ List.mem_cons_self
          refine ⟨?_, noBlocks, noMacros, reachable⟩
          intro n inside
          rw [wholesOfNodes, Node.wholes] at inside
          rcases List.mem_append.mp inside with first | later
          · exact own n first
          · exact fit n later
      | _ => exact (simple _ List.mem_cons_self).elim

/-- The page of plain pieces is bound to their nodes. -/
theorem bind_written (pieces : List Piece) (plain : ∀ piece ∈ pieces, piece.Plain) :
    bind (pageOf pieces) = .ok ⟨pieceNodes [] pieces, [], []⟩ := by
  have simple := piece_nodes_simple pieces plain []
  obtain ⟨fit, noBlocks, noMacros, reachable⟩ := bind_simple _ simple
  have allFit : (wholesOfNodes (pieceNodes [] pieces)).find?
      (fun n => Whole.clampSigned n != n) = none := by
    rw [List.find?_eq_none]
    intro n inside
    simp [fit n inside]
  rw [bind, Grammar.page_written pieces plain]
  simp only [allFit, trim_page_simple _ simple, noBlocks, noMacros, reachable]
  rfl

end Stencil.Markup
