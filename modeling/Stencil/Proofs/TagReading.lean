import Stencil.Proofs.LiteralReading

/-!
Reading tags back. A tag is a name and arguments with names; it is read as a call of these,
and as an expression it is that call alone.
-/

namespace Stencil.Markup.Grammar

def furtherArguments (more : List (String × Argument)) : List Char :=
  more.flatMap fun argument => ',' :: ' ' :: argumentChars argument

def isName (word : String) : Bool :=
  match word.toList with
  | c :: rest => isNameStart c && rest.all isNameChar
  | [] => false

theorem is_name_shape {word : String} (named : isName word = true) :
    ∃ first rest, word.toList = first :: rest ∧ isNameStart first = true ∧
      ∀ c ∈ rest, isNameChar c = true := by
  unfold isName at named
  split at named
  next first rest shape =>
    simp only [Bool.and_eq_true, List.all_eq_true] at named
    exact ⟨first, rest, shape, named.1, named.2⟩
  next => cases named

theorem name_written (word : String) (named : isName word = true) {c : Char}
    (ends : isNameChar c = false) {input after : List Char}
    (start : skip input = word.toList ++ c :: after) : name input = some (word, c :: after) := by
  obtain ⟨first, rest, shape, starts, more⟩ := is_name_shape named
  have whole : String.ofList (first :: rest) = word := by rw [← shape, String.ofList_toList]
  rw [shape] at start
  simp [name, start, nameChars, starts, List.takeWhile_append_of_pos more,
    List.dropWhile_append_of_pos more, ends, whole]

theorem skip_name (word : String) (named : isName word = true) (rest : List Char) :
    skip (word.toList ++ rest) = word.toList ++ rest := by
  obtain ⟨first, chars, shape, starts, _⟩ := is_name_shape named
  rw [shape]
  exact skip_cons (dark_of_kind isNameStart (by decide) starts) _

theorem skip_argument_chars (argument : String × Argument) (named : isName argument.1 = true)
    (rest : List Char) :
    skip (argumentChars argument ++ rest) = argumentChars argument ++ rest := by
  have dark := skip_name argument.1 named ('=' :: (argument.2.chars ++ rest))
  simpa only [argumentChars, List.append_assoc, List.cons_append] using dark

theorem argument_chars_length (argument : String × Argument) :
    (argumentChars argument).length =
      argument.1.toList.length + 1 + argument.2.chars.length := by
  rw [argumentChars, List.length_append, List.length_cons]
  omega

theorem named_arg_written (argument : String × Argument) (named : isName argument.1 = true)
    (plain : argument.2.Plain) (levels : Nat)
    (enough : argument.2.chars.length + 10 ≤ levels) {input rest : List Char}
    (closed : Closed rest) (start : skip input = argumentChars argument ++ rest) :
    namedArg levels input = some (argument.1, argumentExpr argument.2, rest) := by
  obtain ⟨n, rfl⟩ : ∃ n, levels = n + 1 := ⟨levels - 1, by omega⟩
  have start : skip input = argument.1.toList ++ '=' :: (argument.2.chars ++ rest) := by
    rw [start, argumentChars, List.append_assoc, List.cons_append]
  have key := name_written argument.1 named (by decide) start
  have equals : symbol "=" ('=' :: (argument.2.chars ++ rest)) = some (argument.2.chars ++ rest) :=
    rfl
  have given : value n (argument.2.chars ++ rest) = some (argumentExpr argument.2, rest) :=
    value_argument argument.2 plain (by omega) closed (skip_argument argument.2 rest)
  rw [namedArg, key]
  simp [equals, given]

theorem add_arg_new {args : List (String × Expr)} {key : String} (e : Expr)
    (new : key ∉ args.map Prod.fst) : addArg args key e = args ++ [(key, e)] := by
  rw [addArg, if_neg]
  intro known
  obtain ⟨arg, inside, same⟩ := List.any_eq_true.mp known
  exact new (List.mem_map.mpr ⟨arg, inside, beq_iff_eq.mp same⟩)

theorem closed_arguments (more : List (String × Argument)) (rest : List Char) :
    Closed (furtherArguments more ++ ')' :: rest) := by
  cases more with
  | nil => exact ⟨')', by decide, At.cons (by decide) rest⟩
  | cons other _ => exact ⟨',', by decide, At.cons (by decide) _⟩

theorem named_args_written (more : List (String × Argument)) (known : List (String × Expr))
    (distinct : (known.map Prod.fst ++ more.map Prod.fst).Nodup)
    (named : ∀ argument ∈ more, isName argument.1 = true)
    (plain : ∀ argument ∈ more, argument.2.Plain) (levels : Nat)
    (enough : (furtherArguments more).length + 11 ≤ levels) (rest : List Char) :
    namedArgs levels known (furtherArguments more ++ ')' :: rest) =
      (known ++ more.map namedExpr, ')' :: rest) := by
  induction more generalizing known levels with
  | nil =>
      obtain ⟨n, rfl⟩ : ∃ n, levels = n + 1 := ⟨levels - 1, by omega⟩
      have noComma : symbol "," (')' :: rest) = none :=
        symbol_none (At.cons (by decide) rest) rfl (by decide)
      rw [namedArgs]
      simp [furtherArguments, noComma]
  | cons next more ih =>
      have after : furtherArguments (next :: more) ++ ')' :: rest =
          ',' :: ' ' :: (argumentChars next ++ (furtherArguments more ++ ')' :: rest)) := by
        simp [furtherArguments]
      have size : (furtherArguments (next :: more)).length =
          2 + (argumentChars next).length + (furtherArguments more).length := by
        simp [furtherArguments]
        omega
      have inner := argument_chars_length next
      obtain ⟨n, rfl⟩ : ∃ n, levels = n + 1 := ⟨levels - 1, by omega⟩
      have isNamed := named next List.mem_cons_self
      have start : skip (' ' :: (argumentChars next ++ (furtherArguments more ++ ')' :: rest))) =
          argumentChars next ++ (furtherArguments more ++ ')' :: rest) :=
        skip_argument_chars next isNamed _
      have read := named_arg_written next isNamed (plain next List.mem_cons_self) n (by omega)
        (closed_arguments more rest) start
      have comma : symbol ","
          (',' :: ' ' :: (argumentChars next ++ (furtherArguments more ++ ')' :: rest))) =
          some (' ' :: (argumentChars next ++ (furtherArguments more ++ ')' :: rest))) := rfl
      -- A repeated name would replace the argument read before instead of following it.
      have new : next.1 ∉ known.map Prod.fst := by
        intro old
        exact (List.nodup_append.mp distinct).2.2 _ old _ (by simp) rfl
      have later := ih (known ++ [namedExpr next]) (by simpa [namedExpr] using distinct)
        (fun argument inside => named argument (List.mem_cons_of_mem _ inside))
        (fun argument inside => plain argument (List.mem_cons_of_mem _ inside)) n (by omega)
      rw [namedArgs, after]
      simp only [comma, Option.bind_eq_bind, Option.bind_some, read, add_arg_new _ new]
      simpa [namedExpr] using later

theorem args_of_written (first : String × Argument) (more : List (String × Argument))
    (distinct : ((first :: more).map Prod.fst).Nodup)
    (named : ∀ argument ∈ first :: more, isName argument.1 = true)
    (plain : ∀ argument ∈ first :: more, argument.2.Plain) (levels : Nat)
    (enough : (argumentChars first).length + (furtherArguments more).length + 12 ≤ levels)
    {input rest : List Char}
    (start : skip input =
      '(' :: (argumentChars first ++ (furtherArguments more ++ ')' :: rest))) :
    argsOf levels input = some ((first :: more).map namedExpr, rest) := by
  have inner := argument_chars_length first
  obtain ⟨n, rfl⟩ : ∃ n, levels = n + 1 := ⟨levels - 1, by omega⟩
  have isNamed := named first List.mem_cons_self
  have opened : symbol "(" input =
      some (argumentChars first ++ (furtherArguments more ++ ')' :: rest)) := by
    rw [symbol, start]
    rfl
  have read := named_arg_written first isNamed (plain first List.mem_cons_self) n (by omega)
    (closed_arguments more rest) (skip_argument_chars first isNamed _)
  have further := named_args_written more [namedExpr first] (by simpa [namedExpr] using distinct)
    (fun argument inside => named argument (List.mem_cons_of_mem _ inside))
    (fun argument inside => plain argument (List.mem_cons_of_mem _ inside)) n (by omega) rest
  have noComma : symbol "," (')' :: rest) = none :=
    symbol_none (At.cons (by decide) rest) rfl (by decide)
  have shut : symbol ")" (')' :: rest) = some rest := rfl
  rw [namedExpr] at further
  rw [argsOf, opened]
  simp only [Option.bind_eq_bind, Option.bind_some, read, further, noComma, Option.getD_none, shut]
  rfl

/-- A tag has at least one argument, and its names are names and differ. -/
theorem arguments_named (tag : Tag) : isName tag.tool = true ∧
    (∀ argument ∈ tag.arguments, isName argument.1 = true) ∧
    (tag.arguments.map Prod.fst).Nodup ∧ tag.arguments ≠ [] := by
  cases tag with
  | read key preset =>
      cases preset with
      | none => simp [Tag.tool, Tag.arguments]; decide
      | some literal => simp [Tag.tool, Tag.arguments]; decide
  | call name given =>
      cases given <;> simp [Tag.tool, Tag.arguments, Given.argument?] <;> decide

theorem call_of_written (tag : Tag) (plain : ∀ argument ∈ tag.arguments, argument.2.Plain)
    {levels : Nat} (enough : tag.chars.length + 12 ≤ levels) {input rest : List Char}
    (start : skip input = tag.chars ++ rest) :
    callOf levels input = some (tagCall tag, rest) := by
  obtain ⟨isTool, named, distinct, some⟩ := arguments_named tag
  cases given : tag.arguments with
  | nil => exact absurd given some
  | cons first more =>
      rw [given] at plain named distinct
      have chars : tag.chars =
          tag.tool.toList ++ '(' :: (argumentChars first ++ (furtherArguments more ++ [')'])) := by
        simp [Tag.chars, given, separated, furtherArguments, List.flatMap_map]
      have shape : tag.chars ++ rest = tag.tool.toList ++
          '(' :: (argumentChars first ++ (furtherArguments more ++ ')' :: rest)) := by
        simp [chars]
      have size : tag.chars.length = tag.tool.toList.length + 2 + (argumentChars first).length +
          (furtherArguments more).length := by
        simp [chars]
        omega
      have called := name_written tag.tool isTool (by decide) (start.trans shape)
      obtain ⟨n, rfl⟩ : ∃ n, levels = n + 1 := ⟨levels - 1, by omega⟩
      have args := args_of_written first more distinct named plain n (by omega)
        (skip_cons (by decide) (argumentChars first ++ (furtherArguments more ++ ')' :: rest)))
      rw [callOf, called]
      simp only [Option.bind_eq_bind, Option.bind_some]
      rw [args, tagCall, given]
      rfl

/-! Tags as expressions. -/

theorem path_tail_group (levels : Nat) (after : List Char) :
    pathTail levels ('(' :: after) = ([], '(' :: after) := by
  cases levels with
  | zero => rw [pathTail]
  | succ levels => rw [pathTail] <;> nofun

theorem path_written (word : String) (named : isName word = true) {input after : List Char}
    (start : skip input = word.toList ++ '(' :: after) :
    path input = some (word, '(' :: after) := by
  obtain ⟨first, rest, shape, starts, more⟩ := is_name_shape named
  have whole : String.ofList (first :: rest) = word := by rw [← shape, String.ofList_toList]
  have stops : isNameChar '(' = false := by decide
  rw [shape] at start
  simp [path, start, pathChars, nameChars, starts, List.takeWhile_append_of_pos more,
    List.dropWhile_append_of_pos more, stops, path_tail_group, whole]

theorem tool_chars (tag : Tag) : tag.tool.toList = ['c'] ∨ tag.tool.toList = ['f'] := by
  cases tag with
  | read key preset => simp [Tag.tool]
  | call name given => simp [Tag.tool]

theorem boolean_group {c : Char} {input after : List Char}
    (start : skip input = c :: '(' :: after) : boolean input = none := by
  simp [boolean, symbol, exactly, start, List.isPrefixOf]

/-- A tag is no test, no variable and no macro call, and it is read as a call. -/
theorem atom_tag (tag : Tag) (plain : ∀ argument ∈ tag.arguments, argument.2.Plain)
    {levels : Nat} (enough : tag.chars.length + 13 ≤ levels) {input rest : List Char}
    (start : skip input = tag.chars ++ rest) :
    atom levels input = some (.call (tagCall tag), rest) := by
  have isTool := (arguments_named tag).1
  obtain ⟨n, rfl⟩ : ∃ n, levels = n + 1 := ⟨levels - 1, by omega⟩
  obtain ⟨m, rfl⟩ : ∃ m, n = m + 1 := ⟨n - 1, by omega⟩
  have shape : skip input = tag.tool.toList ++
      '(' :: (separated (tag.arguments.map argumentChars) ++ ')' :: rest) := by
    simp [start, Tag.chars]
  have noBool : boolean input = none := by
    rcases tool_chars tag with tool | tool
    · exact boolean_group (by rw [shape, tool]; rfl)
    · exact boolean_group (by rw [shape, tool]; rfl)
  have noTest : testOf (m + 1) input = none := by
    rw [testOf, path_written tag.tool isTool shape]
    rfl
  have noMacro : macroCallOf (m + 1) input = none := by
    rw [macroCallOf, name_written tag.tool isTool (by decide) shape]
    rfl
  rw [atom, noBool, noTest, noMacro, call_of_written tag plain (by omega) start]

theorem value_tag (tag : Tag) (plain : ∀ argument ∈ tag.arguments, argument.2.Plain)
    {levels : Nat} (enough : tag.chars.length + 21 ≤ levels) {input rest : List Char}
    (closed : Closed rest) (start : skip input = tag.chars ++ rest) :
    value levels input = some (tagExpr tag, rest) := by
  obtain ⟨n, rfl⟩ : ∃ n, levels = n + 8 := ⟨levels - 8, by omega⟩
  obtain ⟨c, here, noN, noGroup, noQuote⟩ : ∃ c, At c input ∧ c ≠ 'n' ∧ c ≠ '(' ∧
      c ∉ ['"', '\'', '\x60'] := by
    rw [Tag.chars] at start
    rcases tool_chars tag with tool | tool
    · exact ⟨'c', ⟨_, by rw [start, tool]; rfl⟩, by decide, by decide, by decide⟩
    · exact ⟨'f', ⟨_, by rw [start, tool]; rfl⟩, by decide, by decide, by decide⟩
  have part : concatPart (n + 1) input = some (.call (tagCall tag), rest) := by
    rw [concatPart, call_of_written tag plain (by omega) start]
  have noText : textFiltered (n + 3) input = none := by
    rw [textFiltered, concatenation_alone closed part, quoted_none here noQuote]
    rfl
  apply value_part closed
  apply logical_part_condition (word_none (symbol_none here rfl (Ne.symm noN)))
  apply condition_operand closed
  apply operand_of_term noText
  exact term_filtered_atom closed (symbol_none here rfl (Ne.symm noGroup))
    (atom_tag tag plain (by omega) start)

end Stencil.Markup.Grammar
