import Stencil.Json
import Stencil.Markup.Syntax

/-!
Reading pages. A reader takes what it recognises from the front of the text and
leaves the rest. Choices are ordered: the first alternative that fits is taken
for good. Recursion is bounded by a number of levels that no text of the given
length can use up.
-/

namespace Stencil.Markup

abbrev Reader (α : Type) := List Char → Option (α × List Char)

namespace Grammar

def isSpace (c : Char) : Bool := c == ' ' || c == '\t' || c == '\r' || c == '\n'

def skip (input : List Char) : List Char := input.dropWhile isSpace

def exactly (word : String) (input : List Char) : Option (List Char) :=
  if word.toList.isPrefixOf input then some (input.drop word.length) else none

def symbol (word : String) (input : List Char) : Option (List Char) := exactly word (skip input)

def gap : List Char → Option (List Char)
  | c :: rest => if isSpace c then some (skip rest) else none
  | [] => none

def word (w : String) (input : List Char) : Option (List Char) := do
  match ← symbol w input with
  | c :: rest => if isSpace c then some rest else none
  | [] => none

def isNameStart (c : Char) : Bool :=
  ('a' ≤ c && c ≤ 'z') || ('A' ≤ c && c ≤ 'Z') || c == '_'

def isNameChar (c : Char) : Bool := isNameStart c || isDigit c

def nameChars : Reader (List Char)
  | c :: rest =>
      if isNameStart c then some (c :: rest.takeWhile isNameChar, rest.dropWhile isNameChar)
      else none
  | [] => none

def name (input : List Char) : Option (String × List Char) := do
  let (chars, rest) ← nameChars (skip input)
  some (String.ofList chars, rest)

/-- Digits without a needless zero in front, after an optional minus. -/
def wholeChars (input : List Char) : Option (List Char × List Char) :=
  let (sign, digits) := match input with
    | '-' :: rest => (['-'], rest)
    | _ => ([], input)
  match digits with
  | '0' :: rest => some (sign ++ ['0'], rest)
  | c :: rest =>
      if isDigit c then
        some (sign ++ c :: rest.takeWhile isDigit, rest.dropWhile isDigit)
      else none
  | [] => none

def wholeNumber (chars : List Char) : Int :=
  match chars with
  | '-' :: digits => -(natOfDigits digits : Int)
  | digits => (natOfDigits digits : Int)

def whole (input : List Char) : Option (Term × List Char) := do
  let (chars, rest) ← wholeChars (skip input)
  some (.whole (wholeNumber chars), rest)

def real (input : List Char) : Option (Term × List Char) := do
  let (chars, rest) ← wholeChars (skip input)
  match rest with
  | '.' :: rest =>
      let fraction := rest.takeWhile isDigit
      if fraction.isEmpty then none
      else
        let (numeral, _) := Numeral.scan (chars ++ '.' :: fraction)
        some (.real (numeral.nearest?.getD Binary64.zero), rest.dropWhile isDigit)
  | _ => none

/-- A text between two equal quotes; there is no escape. -/
def quoted (input : List Char) : Option (String × List Char) :=
  match skip input with
  | q :: rest =>
      if q = '"' ∨ q = '\'' ∨ q = '\x60' then
        match rest.dropWhile (· != q) with
        | _ :: after => some (String.ofList (rest.takeWhile (· != q)), after)
        | [] => none
      else none
  | [] => none

def boolean (input : List Char) : Option (Bool × List Char) :=
  match symbol "true" input, symbol "false" input, symbol "True" input, symbol "False" input with
  | some rest, _, _, _ => some (true, rest)
  | _, some rest, _, _ => some (false, rest)
  | _, _, some rest, _ => some (true, rest)
  | _, _, _, some rest => some (false, rest)
  | _, _, _, _ => none

mutual

/-- A name with parts after dots and in brackets, without white space. -/
def pathChars (levels : Nat) (input : List Char) : Option (List Char × List Char) :=
  match levels with
  | 0 => none
  | levels + 1 => do
      let (head, rest) ← nameChars input
      let (tail, rest) := pathTail levels rest
      some (head ++ tail, rest)

def pathTail (levels : Nat) (input : List Char) : List Char × List Char :=
  match levels with
  | 0 => ([], input)
  | levels + 1 =>
      match input with
      | '.' :: rest =>
          let part := rest.takeWhile isNameChar
          if part.isEmpty then ([], input)
          else
            let (tail, after) := pathTail levels (rest.dropWhile isNameChar)
            ('.' :: part ++ tail, after)
      | '[' :: rest =>
          match bracketed levels rest with
          | some (inside, after) =>
              let (tail, after) := pathTail levels after
              ('[' :: inside ++ tail, after)
          | none => ([], input)
      | _ => ([], input)

def bracketed (levels : Nat) (input : List Char) : Option (List Char × List Char) :=
  match levels with
  | 0 => none
  | levels + 1 =>
      let close (inside after : List Char) : Option (List Char × List Char) :=
        match after with
        | ']' :: after => some (inside ++ [']'], after)
        | _ => none
      match wholeChars input with
      | some (digits, after) => close digits after
      | none =>
          match input with
          | q :: rest =>
              if q = '"' ∨ q = '\'' ∨ q = '\x60' then
                match rest.dropWhile (· != q) with
                | _ :: after => close (q :: rest.takeWhile (· != q) ++ [q]) after
                | [] => none
              else do
                let (inside, after) ← pathChars levels input
                close inside after
          | [] => none

end

def path (input : List Char) : Option (String × List Char) := do
  let input := skip input
  let (chars, rest) ← pathChars (input.length + 1) input
  some (String.ofList chars, rest)

def mathOp (input : List Char) : Option (MathOp × List Char) :=
  match skip input with
  | '+' :: rest => some (.add, rest)
  | '-' :: rest => some (.sub, rest)
  | '*' :: rest => some (.mul, rest)
  | '/' :: rest => some (.div, rest)
  | '%' :: rest => some (.modulo, rest)
  | _ => none

def comparisonOp (input : List Char) : Option (LogicOp × List Char) :=
  match skip input with
  | '<' :: '=' :: rest => some (.atMost, rest)
  | '>' :: '=' :: rest => some (.atLeast, rest)
  | '>' :: rest => some (.greater, rest)
  | '<' :: rest => some (.less, rest)
  | '=' :: '=' :: rest => some (.equal, rest)
  | '!' :: '=' :: rest => some (.different, rest)
  | _ => none

def connective (input : List Char) : Option (LogicOp × List Char) :=
  match word "or" input with
  | some rest => some (.either, rest)
  | none => (word "and" input).map fun rest => (.both, rest)

/-- Joins operands from the left, those of tight operators first. -/
def climb {Op Operand : Type} (tight : Op → Bool) (join : Op → Operand → Operand → Operand)
    (low : Option (Operand × Op)) (current : Operand) : List (Op × Operand) → Operand
  | [] =>
      match low with
      | none => current
      | some (left, op) => join op left current
  | (op, operand) :: rest =>
      if tight op then climb tight join low (join op current operand) rest
      else
        let left := match low with
          | none => current
          | some (left, before) => join before left current
        climb tight join (some (left, op)) operand rest

def isProduct : MathOp → Bool
  | .mul | .div | .modulo => true
  | .add | .sub => false

def joinTerms (op : MathOp) (left right : Term) : Term :=
  .math op (.ofTerm left) (.ofTerm right)

def joinMath (op : MathOp) (left right : Expr) : Expr := .ofTerm (.math op left right)

def joinLogic (op : LogicOp) (left right : Expr) : Expr := .ofTerm (.logic op left right)

def joinParts (first : Expr) (parts : List (MathOp × Expr) × List Char) : Expr × List Char :=
  (climb isProduct joinMath none first parts.1, parts.2)

/-- A repeated argument takes its last value. -/
def addArg (args : List (String × Expr)) (key : String) (e : Expr) : List (String × Expr) :=
  if args.any (·.1 == key) then args.map fun arg => if arg.1 == key then (key, e) else arg
  else args ++ [(key, e)]

/-- Literals side by side become one; a lone text is no concatenation. -/
def concatTerm (parts : List Term) : Term :=
  let flush (done : List Term) (held : String) : List Term :=
    if held.isEmpty then done else done ++ [.text held]
  let (done, held) := parts.foldl (fun (done, held) part =>
    match part with
    | .text s => (done, held ++ s)
    | other => (flush done held ++ [other], "")) (([] : List Term), "")
  match done with
  | [] => .text held
  | _ => .concat (flush done held)

mutual

def value (levels : Nat) (input : List Char) : Option (Expr × List Char) :=
  match levels with
  | 0 => none
  | levels + 1 =>
      match logical levels input with
      | some result => some result
      | none => arrayFiltered levels input

def logical (levels : Nat) (input : List Char) : Option (Expr × List Char) :=
  match levels with
  | 0 => none
  | levels + 1 => do
      let (first, rest) ← logicalPart levels input
      let (more, rest) := logicalRest levels rest
      some (climb (· == .both) joinLogic none first more, rest)

def logicalRest (levels : Nat) (input : List Char) : List (LogicOp × Expr) × List Char :=
  match levels with
  | 0 => ([], input)
  | levels + 1 =>
      let step : Option (LogicOp × Expr × List Char) := do
        let (op, rest) ← connective input
        let (e, rest) ← logicalPart levels rest
        some (op, e, rest)
      match step with
      | some (op, e, rest) =>
          let (more, rest) := logicalRest levels rest
          ((op, e) :: more, rest)
      | none => ([], input)

/-- A membership or a comparison, maybe negated, or an expression in
parentheses. The parentheses take away a negation inside them. -/
def logicalPart (levels : Nat) (input : List Char) : Option (Expr × List Char) :=
  match levels with
  | 0 => none
  | levels + 1 =>
      let (negated, start) := match word "not" input with
        | some rest => (true, rest)
        | none => (false, input)
      match condition levels start with
      | some (e, rest) => some (e.withNegation negated, rest)
      | none => do
          let rest ← symbol "(" input
          let (e, rest) ← logical levels rest
          let rest ← symbol ")" rest
          some (e.withNegation false, rest)

def condition (levels : Nat) (input : List Char) : Option (Expr × List Char) :=
  match levels with
  | 0 => none
  | levels + 1 => do
      let ((operand, isText), rest) ← operandOf levels input
      match membershipOf levels operand rest with
      | some result => some result
      | none =>
          let (left, rest) := if isText then (operand, rest)
            else joinParts operand (mathParts levels rest)
          match comparisonRest levels rest with
          | some (op, right, rest) => some (joinLogic op left right, rest)
          | none => some (left, rest)

/-- A text or a filtered term; and whether it is a text. -/
def operandOf (levels : Nat) (input : List Char) : Option ((Expr × Bool) × List Char) :=
  match levels with
  | 0 => none
  | levels + 1 =>
      match textFiltered levels input with
      | some (e, rest) => some ((e, true), rest)
      | none => (termFiltered levels input).map fun (e, rest) => ((e, false), rest)

def membershipOf (levels : Nat) (item : Expr) (input : List Char) : Option (Expr × List Char) :=
  match levels with
  | 0 => none
  | levels + 1 => do
      let (negated, start) := match word "not" input with
        | some rest => (true, rest)
        | none => (false, input)
      let rest ← symbol "in" start
      let (container, rest) ←
        match textFiltered levels rest with
        | some result => some result
        | none =>
            match arrayFiltered levels rest with
            | some result => some result
            | none => (path rest).map fun (p, rest) => (.ofTerm (.path p), rest)
      some (.ofTerm (.membership item container negated), rest)

def mathParts (levels : Nat) (input : List Char) : List (MathOp × Expr) × List Char :=
  match levels with
  | 0 => ([], input)
  | levels + 1 =>
      let step : Option (MathOp × Expr × List Char) := do
        let (op, rest) ← mathOp input
        let (e, rest) ← termFiltered levels rest
        some (op, e, rest)
      match step with
      | some (op, e, rest) =>
          let (more, rest) := mathParts levels rest
          ((op, e) :: more, rest)
      | none => ([], input)

def comparisonRest (levels : Nat) (input : List Char) : Option (LogicOp × Expr × List Char) :=
  match levels with
  | 0 => none
  | levels + 1 => do
      let (op, rest) ← comparisonOp input
      let ((operand, isText), rest) ← operandOf levels rest
      let (right, rest) :=
        if isText then (operand, rest) else joinParts operand (mathParts levels rest)
      some (op, right, rest)

def textFiltered (levels : Nat) (input : List Char) : Option (Expr × List Char) :=
  match levels with
  | 0 => none
  | levels + 1 => do
      let (term, rest) ←
        match concatenation levels input with
        | some result => some result
        | none => (quoted input).map fun (s, rest) => (.text s, rest)
      let (filters, rest) := filtersOf levels rest
      some (.mk term false filters, rest)

def concatenation (levels : Nat) (input : List Char) : Option (Term × List Char) :=
  match levels with
  | 0 => none
  | levels + 1 => do
      let (first, rest) ← concatPart levels input
      match concatRest levels rest with
      | ([], _) => none
      | (more, rest) => some (concatTerm (first :: more), rest)

def concatRest (levels : Nat) (input : List Char) : List Term × List Char :=
  match levels with
  | 0 => ([], input)
  | levels + 1 =>
      let step : Option (Term × List Char) := do
        let rest ← symbol "~" input
        concatPart levels rest
      match step with
      | some (part, rest) =>
          let (more, rest) := concatRest levels rest
          (part :: more, rest)
      | none => ([], input)

def concatPart (levels : Nat) (input : List Char) : Option (Term × List Char) :=
  match levels with
  | 0 => none
  | levels + 1 =>
      match callOf levels input with
      | some (call, rest) => some (.call call, rest)
      | none =>
          match real input with
          | some result => some result
          | none =>
              match whole input with
              | some result => some result
              | none =>
                  match quoted input with
                  | some (s, rest) => some (.text s, rest)
                  | none => (path input).map fun (p, rest) => (.path p, rest)

def termFiltered (levels : Nat) (input : List Char) : Option (Expr × List Char) :=
  match levels with
  | 0 => none
  | levels + 1 => do
      let (term, rest) ← arithmetic levels input
      let (filters, rest) := filtersOf levels rest
      some (.mk term false filters, rest)

def arithmetic (levels : Nat) (input : List Char) : Option (Term × List Char) :=
  match levels with
  | 0 => none
  | levels + 1 => do
      let (first, rest) ← arithmeticPart levels input
      let (more, rest) := arithmeticRest levels rest
      some (climb isProduct joinTerms none first more, rest)

def arithmeticRest (levels : Nat) (input : List Char) : List (MathOp × Term) × List Char :=
  match levels with
  | 0 => ([], input)
  | levels + 1 =>
      let step : Option (MathOp × Term × List Char) := do
        let (op, rest) ← mathOp input
        let (term, rest) ← arithmeticPart levels rest
        some (op, term, rest)
      match step with
      | some (op, term, rest) =>
          let (more, rest) := arithmeticRest levels rest
          ((op, term) :: more, rest)
      | none => ([], input)

def arithmeticPart (levels : Nat) (input : List Char) : Option (Term × List Char) :=
  match levels with
  | 0 => none
  | levels + 1 =>
      let enclosed : Option (Term × List Char) := do
        let rest ← symbol "(" input
        let (term, rest) ← arithmetic levels rest
        let rest ← symbol ")" rest
        some (term, rest)
      match enclosed with
      | some result => some result
      | none => atom levels input

def atom (levels : Nat) (input : List Char) : Option (Term × List Char) :=
  match levels with
  | 0 => none
  | levels + 1 =>
      match boolean input with
      | some (b, rest) => some (.bool b, rest)
      | none =>
          match testOf levels input with
          | some result => some result
          | none =>
              match macroCallOf levels input with
              | some result => some result
              | none =>
                  match callOf levels input with
                  | some (call, rest) => some (.call call, rest)
                  | none =>
                      match path input with
                      | some (p, rest) => some (.path p, rest)
                      | none =>
                          match real input with
                          | some result => some result
                          | none => whole input

def testOf (levels : Nat) (input : List Char) : Option (Term × List Char) :=
  match levels with
  | 0 => none
  | levels + 1 => do
      let (p, rest) ← path input
      let rest ← symbol "is" rest
      let negated : Option (Term × List Char) := do
        let rest ← symbol "not" rest
        let (test, args, rest) ← testCall levels rest
        some (.test p true test args, rest)
      match negated with
      | some result => some result
      | none =>
          let (test, args, rest) ← testCall levels rest
          some (.test p false test args, rest)

def testCall (levels : Nat) (input : List Char) : Option (String × List Expr × List Char) :=
  match levels with
  | 0 => none
  | levels + 1 => do
      let (test, rest) ← name input
      let given : Option (List Expr × List Char) := do
        let start ← symbol "(" rest
        let (first, rest) ← value levels start
        let (more, rest) := testArgs levels rest
        let rest ← symbol ")" rest
        some (first :: more, rest)
      match given with
      | some (args, rest) => some (test, args, rest)
      | none => some (test, [], rest)

def testArgs (levels : Nat) (input : List Char) : List Expr × List Char :=
  match levels with
  | 0 => ([], input)
  | levels + 1 =>
      let step : Option (Expr × List Char) := do
        let rest ← symbol "," input
        value levels rest
      match step with
      | some (e, rest) =>
          let (more, rest) := testArgs levels rest
          (e :: more, rest)
      | none => ([], input)

def macroCallOf (levels : Nat) (input : List Char) : Option (Term × List Char) :=
  match levels with
  | 0 => none
  | levels + 1 => do
      let (space, rest) ← name input
      let rest ← symbol "::" rest
      let (called, rest) ← name rest
      let (args, rest) ← argsOf levels rest
      some (.macroCall space called args, rest)

def callOf (levels : Nat) (input : List Char) : Option (Call × List Char) :=
  match levels with
  | 0 => none
  | levels + 1 => do
      let (called, rest) ← name input
      let (args, rest) ← argsOf levels rest
      some (.mk called args, rest)

/-- Named arguments in parentheses; a comma may follow the last. -/
def argsOf (levels : Nat) (input : List Char) : Option (List (String × Expr) × List Char) :=
  match levels with
  | 0 => none
  | levels + 1 => do
      let start ← symbol "(" input
      match namedArg levels start with
      | none => (symbol ")" start).map fun rest => ([], rest)
      | some (key, e, rest) =>
          let (args, rest) := namedArgs levels [(key, e)] rest
          let rest := (symbol "," rest).getD rest
          let rest ← symbol ")" rest
          some (args, rest)

def namedArg (levels : Nat) (input : List Char) : Option (String × Expr × List Char) :=
  match levels with
  | 0 => none
  | levels + 1 => do
      let (key, rest) ← name input
      let rest ← symbol "=" rest
      let (e, rest) ← value levels rest
      some (key, e, rest)

def namedArgs (levels : Nat) (args : List (String × Expr)) (input : List Char) :
    List (String × Expr) × List Char :=
  match levels with
  | 0 => (args, input)
  | levels + 1 =>
      let step : Option (String × Expr × List Char) := do
        let rest ← symbol "," input
        namedArg levels rest
      match step with
      | some (key, e, rest) => namedArgs levels (addArg args key e) rest
      | none => (args, input)

def filtersOf (levels : Nat) (input : List Char) : List Call × List Char :=
  match levels with
  | 0 => ([], input)
  | levels + 1 =>
      let step : Option (Call × List Char) := do
        let rest ← symbol "|" input
        filterName levels rest
      match step with
      | some (filter, rest) =>
          let (more, rest) := filtersOf levels rest
          (filter :: more, rest)
      | none => ([], input)

def filterName (levels : Nat) (input : List Char) : Option (Call × List Char) :=
  match levels with
  | 0 => none
  | levels + 1 =>
      match callOf levels input with
      | some result => some result
      | none => (name input).map fun (called, rest) => (.mk called [], rest)

def arrayFiltered (levels : Nat) (input : List Char) : Option (Expr × List Char) :=
  match levels with
  | 0 => none
  | levels + 1 => do
      let rest ← symbol "[" input
      let (items, rest) := arrayItems levels rest
      let rest ← symbol "]" rest
      let (filters, rest) := filtersOf levels rest
      some (.mk (.array items) false filters, rest)

def arrayItems (levels : Nat) (input : List Char) : List Expr × List Char :=
  match levels with
  | 0 => ([], input)
  | levels + 1 =>
      match logicalPart levels input with
      | none => ([], input)
      | some (e, rest) =>
          match symbol "," rest with
          | none => ([e], rest)
          | some rest =>
              let (more, rest) := arrayItems levels rest
              (e :: more, rest)

end

/-! Tags. -/

def tagStart (input : List Char) : Option (Bool × List Char) :=
  match input with
  | '\x7b' :: '%' :: '-' :: rest => some (true, rest)
  | '\x7b' :: '%' :: rest => some (false, rest)
  | _ => none

def tagEnd (input : List Char) : Option (Bool × List Char) :=
  match skip input with
  | '-' :: '%' :: '\x7d' :: rest => some (true, rest)
  | '%' :: '\x7d' :: rest => some (false, rest)
  | _ => none

def showStart (input : List Char) : Option (Bool × List Char) :=
  match input with
  | '\x7b' :: '\x7b' :: '-' :: rest => some (true, rest)
  | '\x7b' :: '\x7b' :: rest => some (false, rest)
  | _ => none

def showEnd (input : List Char) : Option (Bool × List Char) :=
  match skip input with
  | '-' :: '\x7d' :: '\x7d' :: rest => some (true, rest)
  | '\x7d' :: '\x7d' :: rest => some (false, rest)
  | _ => none

def bareTag (keyword : String) (input : List Char) : Option (Edges × List Char) := do
  let (left, rest) ← tagStart input
  let rest ← symbol keyword rest
  let (right, rest) ← tagEnd rest
  some (⟨left, right⟩, rest)

def namedEnd (keyword : String) (input : List Char) : Option (Edges × List Char) := do
  let (left, rest) ← tagStart input
  let rest ← symbol keyword rest
  let rest := match name rest with
    | some (_, rest) => rest
    | none => rest
  let (right, rest) ← tagEnd rest
  some (⟨left, right⟩, rest)

def fullTag {α : Type} (keyword : String) (content : Reader α) (input : List Char) :
    Option ((Edges × α) × List Char) := do
  let (left, rest) ← tagStart input
  let rest ← symbol keyword rest
  let rest ← gap rest
  let (result, rest) ← content rest
  let (right, rest) ← tagEnd rest
  some ((⟨left, right⟩, result), rest)

def assignment (levels : Nat) : Reader (String × Expr) := fun input => do
  let (target, rest) ← name input
  let rest ← symbol "=" rest
  let (e, rest) ← value levels rest
  some ((target, e), rest)

def quotedList (fuel : Nat) (input : List Char) : List String × List Char :=
  match fuel with
  | 0 => ([], input)
  | fuel + 1 =>
      match quoted input with
      | none => ([], input)
      | some (s, rest) =>
          match symbol "," rest with
          | none => ([s], rest)
          | some rest =>
              let (more, rest) := quotedList fuel rest
              (s :: more, rest)

def includeContent (levels : Nat) : Reader (List String × Bool) := fun input => do
  let (names, rest) ←
    match quoted input with
    | some (s, rest) => some ([s], rest)
    | none => do
        let rest ← symbol "[" input
        let (names, rest) := quotedList levels rest
        let rest ← symbol "]" rest
        some (names, rest)
  let ignored : Option (List Char) := do
    let rest ← symbol "ignore" rest
    let rest ← gap rest
    exactly "missing" rest
  match ignored with
  | some rest => some ((names, true), rest)
  | none => some ((names, false), rest)

structure LoopHead where
  key : Option String
  item : String
  container : Expr

def loopContent (levels : Nat) : Reader LoopHead := fun input => do
  let (first, rest) ← name input
  let second : Option (String × List Char) :=
    match rest with
    | ',' :: rest => name rest
    | _ => none
  let (key, item, rest) := match second with
    | some (second, rest) => (some first, second, rest)
    | none => (none, first, rest)
  let rest ← gap rest
  let rest ← exactly "in" rest
  let rest ← gap rest
  let (container, rest) ←
    match termFiltered levels rest with
    | some result => some result
    | none => arrayFiltered levels rest
  some (⟨key, item, container⟩, rest)

def parameter (input : List Char) : Option ((String × Option Expr) × List Char) := do
  let (param, rest) ← name input
  let literal : Option (Term × List Char) := do
    let rest ← symbol "=" rest
    match boolean rest with
    | some (b, rest) => some (.bool b, rest)
    | none =>
        match quoted rest with
        | some (s, rest) => some (.text s, rest)
        | none =>
            match real rest with
            | some result => some result
            | none => whole rest
  match literal with
  | some (term, rest) => some ((param, some (.ofTerm term)), rest)
  | none => some ((param, none), rest)

def parameters (fuel : Nat) (input : List Char) :
    List (String × Option Expr) × List Char :=
  match fuel with
  | 0 => ([], input)
  | fuel + 1 =>
      let step : Option ((String × Option Expr) × List Char) := do
        let rest ← symbol "," input
        parameter rest
      match step with
      | some (param, rest) =>
          let (more, rest) := parameters fuel rest
          (param :: more, rest)
      | none => ([], input)

def macroContent (levels : Nat) : Reader (String × List (String × Option Expr)) := fun input => do
  let (called, rest) ← name input
  let start ← symbol "(" rest
  let (params, rest) := match parameter start with
    | some (first, rest) =>
        let (more, rest) := parameters levels rest
        (first :: more, rest)
    | none => ([], start)
  let rest ← symbol ")" rest
  some ((called, params), rest)

def comment (input : List Char) : Option (Edges × List Char) :=
  let rec close : List Char → Option (Bool × List Char)
    | '-' :: '#' :: '\x7d' :: rest => some (true, rest)
    | '#' :: '\x7d' :: rest => some (false, rest)
    | _ :: rest => close rest
    | [] => none
  match input with
  | '\x7b' :: '#' :: '-' :: rest => (close rest).map fun (right, rest) => (⟨true, right⟩, rest)
  | '\x7b' :: '#' :: rest => (close rest).map fun (right, rest) => (⟨false, right⟩, rest)
  | _ => none

def plainText : List Char → List Char × List Char
  | '\x7b' :: c :: rest =>
      if c = '\x7b' ∨ c = '%' ∨ c = '#' then ([], '\x7b' :: c :: rest)
      else
        let (s, after) := plainText (c :: rest)
        ('\x7b' :: s, after)
  | c :: rest =>
      let (s, after) := plainText rest
      (c :: s, after)
  | [] => ([], [])

def rawText : List Char → Option (List Char × Edges × List Char)
  | [] => none
  | c :: rest =>
      match bareTag "endraw" (c :: rest) with
      | some (edges, after) => some ([], edges, after)
      | none => (rawText rest).map fun (s, edges, after) => (c :: s, edges, after)

/-- Where a node stands, which settles what may stand there. -/
inductive Position where
  | top | topBranch | block | loop | plain
  deriving DecidableEq

namespace Position

def branch : Position → Position
  | .top => .topBranch
  | other => other

def hasBlocks : Position → Bool
  | .top | .topBranch | .block => true
  | .loop | .plain => false

end Position

mutual

def nodes (levels : Nat) (position : Position) (input : List Char) : List Node × List Char :=
  match levels with
  | 0 => ([], input)
  | levels + 1 =>
      match node levels position input with
      | none => ([], input)
      | some (first, rest) =>
          let (more, rest) := nodes levels position rest
          (first :: more, rest)

def node (levels : Nat) (position : Position) (input : List Char) : Option (Node × List Char) :=
  match levels with
  | 0 => none
  | levels + 1 =>
      match input with
      | '\x7b' :: '\x7b' :: _ => showNode levels position input
      | '\x7b' :: '#' :: _ => (comment input).map fun (edges, rest) => (.comment edges, rest)
      | '\x7b' :: '%' :: _ => tagNode levels position input
      | [] => none
      | _ =>
          let (s, rest) := plainText input
          some (.text (String.ofList s), rest)

def showNode (levels : Nat) (position : Position) (input : List Char) :
    Option (Node × List Char) := do
  let (left, rest) ← showStart input
  let asSuper : Option (List Char) := do
    if position = .block then
      let rest ← symbol "super()" rest
      let (_, rest) ← showEnd rest
      some rest
    else none
  match asSuper with
  | some rest => some (.superBlock, rest)
  | none =>
      let (e, rest) ← value levels rest
      let (right, rest) ← showEnd rest
      some (.show ⟨left, right⟩ e, rest)

def tagNode (levels : Nat) (position : Position) (input : List Char) :
    Option (Node × List Char) :=
  match levels with
  | 0 => none
  | levels + 1 => do
      let (_, start) ← tagStart input
      let (keyword, _) ← name start
      match keyword with
      | "include" =>
          let ((edges, names, ignoreMissing), rest) ←
            fullTag "include" (includeContent levels) input
          some (.include edges names ignoreMissing, rest)
      | "set" =>
          let ((edges, target, e), rest) ← fullTag "set" (assignment levels) input
          some (.assign edges target e false, rest)
      | "set_global" =>
          let ((edges, target, e), rest) ← fullTag "set_global" (assignment levels) input
          some (.assign edges target e true, rest)
      | "raw" =>
          let (start, rest) ← bareTag "raw" input
          let (s, finish, rest) ← rawText rest
          some (.raw start (String.ofList s) finish, rest)
      | "if" =>
          let ((edges, e), rest) ← fullTag "if" (logical levels) input
          let (body, rest) := nodes levels position.branch rest
          let (more, rest) := elseIfs levels position.branch rest
          let (otherwise, rest) := match bareTag "else" rest with
            | some (edges, rest) =>
                let (body, rest) := nodes levels position.branch rest
                (some (edges, body), rest)
            | none => (none, rest)
          let (finish, rest) ← bareTag "endif" rest
          some (.branch ((edges, e, body) :: more) otherwise finish, rest)
      | "for" =>
          let ((start, head), rest) ← fullTag "for" (loopContent levels) input
          let (body, rest) := nodes levels .loop rest
          let (otherwise, rest) := match bareTag "else" rest with
            | some (_, rest) =>
                let (body, rest) := nodes levels .loop rest
                (some body, rest)
            | none => (none, rest)
          let (finish, rest) ← bareTag "endfor" rest
          some (.loop start head.key head.item head.container body otherwise finish, rest)
      | "filter" =>
          let ((start, filter), rest) ← fullTag "filter" (filterName levels) input
          let (body, rest) := nodes levels .plain rest
          let (finish, rest) ← bareTag "endfilter" rest
          some (.section start filter body finish, rest)
      | "block" =>
          if position.hasBlocks then
            let ((start, called), rest) ← fullTag "block" name input
            let (body, rest) := nodes levels .block rest
            let (finish, rest) ← namedEnd "endblock" rest
            some (.block start called body finish, rest)
          else none
      | "macro" =>
          if position = .top then
            let ((start, called, params), rest) ← fullTag "macro" (macroContent levels) input
            let (body, rest) := nodes levels .plain rest
            let (finish, rest) ← namedEnd "endmacro" rest
            some (.define start called params body finish, rest)
          else none
      | "break" =>
          if position = .loop then
            let (edges, rest) ← bareTag "break" input
            some (.leave edges, rest)
          else none
      | "continue" =>
          if position = .loop then
            let (edges, rest) ← bareTag "continue" input
            some (.proceed edges, rest)
          else none
      | _ => none

def elseIfs (levels : Nat) (position : Position) (input : List Char) :
    List (Edges × Expr × List Node) × List Char :=
  match levels with
  | 0 => ([], input)
  | levels + 1 =>
      match fullTag "elif" (logical levels) input with
      | none => ([], input)
      | some ((edges, e), rest) =>
          let (body, rest) := nodes levels position rest
          let (more, rest) := elseIfs levels position rest
          ((edges, e, body) :: more, rest)

end

/-- Comments before anything else. They leave no trace at all. -/
def leadingComments (fuel : Nat) (input : List Char) : List Char :=
  match fuel with
  | 0 => input
  | fuel + 1 =>
      match comment input with
      | some (_, rest) => leadingComments fuel rest
      | none => input

def inheritance (input : List Char) : Option (Node × List Char) := do
  let ((edges, file), rest) ← fullTag "extends" quoted input
  some (.inherit edges file, rest)

def borrowing (input : List Char) : Option (Node × List Char) := do
  let ((edges, file), rest) ← fullTag "import" (fun input => do
    let (file, rest) ← quoted input
    let rest ← gap rest
    let rest ← exactly "as" rest
    let rest ← gap rest
    let (_, rest) ← name rest
    some (file, rest)) input
  some (.borrow edges file, rest)

/-- Macros are borrowed before anything but text. -/
def borrowings (fuel : Nat) (input : List Char) : List Node × List Char :=
  match fuel with
  | 0 => ([], input)
  | fuel + 1 =>
      let (s, after) := plainText input
      match borrowing after with
      | none => ([], input)
      | some (node, rest) =>
          let (more, rest) := borrowings fuel rest
          (if s.isEmpty then node :: more
            else .text (String.ofList s) :: node :: more, rest)

def page (source : String) : Option (List Node) :=
  let input := leadingComments source.length source.toList
  let (parents, input) := match inheritance input with
    | some (node, rest) => ([node], rest)
    | none => ([], input)
  let (lenders, input) := borrowings source.length input
  let (body, rest) := nodes (16 * source.length + 64) .top input
  if rest.isEmpty then some (parents ++ lenders ++ body) else none

end Grammar

end Stencil.Markup
