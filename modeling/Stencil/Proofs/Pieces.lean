import Stencil.Markup
import Stencil.Proofs.Exchange

/-!
Pages made of pieces, and the programs that go with them. A piece is text or a tag that
asks for one thing, with literals for whatever it needs. The same pieces can be written as
a page and carried out as the steps of a program.
-/

namespace Stencil

inductive Quote where
  | double | single | back

def Quote.mark : Quote → Char
  | .double => '"'
  | .single => '\''
  | .back => '\x60'

structure Quoted where
  quote : Quote
  text : String

inductive Literal where
  | text (quoted : Quoted)
  | whole (minus : Bool) (size : Nat)

inductive Given where
  | nothing
  | one (literal : Literal)
  | many (literals : List Literal)

/-- What a tag asks for: the value of a key, maybe with a default, or a call. -/
inductive Tag where
  | read (key : Quoted) (preset : Option Literal)
  | call (name : Quoted) (given : Given)

inductive Piece where
  | text (s : String)
  | ask (tag : Tag)

inductive Argument where
  | one (literal : Literal)
  | many (literals : List Literal)

namespace Given

def argument? : Given → Option Argument
  | .nothing => none
  | .one literal => some (.one literal)
  | .many literals => some (.many literals)

end Given

namespace Tag

def tool : Tag → String
  | .read .. => "c"
  | .call .. => "f"

def arguments : Tag → List (String × Argument)
  | .read key preset =>
      ("key", .one (.text key)) :: (preset.map fun literal => ("default", .one literal)).toList
  | .call name given =>
      ("name", .one (.text name)) :: (given.argument?.map fun args => ("args", args)).toList

end Tag

/-! Pieces as text. -/

def separated : List (List Char) → List Char
  | [] => []
  | first :: rest => first ++ rest.flatMap fun next => ',' :: ' ' :: next

def Quoted.chars (quoted : Quoted) : List Char :=
  quoted.quote.mark :: quoted.text.toList ++ [quoted.quote.mark]

def Literal.chars : Literal → List Char
  | .text quoted => quoted.chars
  | .whole minus size => (if minus then ['-'] else []) ++ Nat.toDigits 10 size

def Argument.chars : Argument → List Char
  | .one literal => literal.chars
  | .many literals => '[' :: separated (literals.map Literal.chars) ++ [']']

def argumentChars (argument : String × Argument) : List Char :=
  argument.1.toList ++ '=' :: argument.2.chars

def Tag.chars (tag : Tag) : List Char :=
  tag.tool.toList ++ '(' :: separated (tag.arguments.map argumentChars) ++ [')']

def Piece.chars : Piece → List Char
  | .text s => s.toList
  | .ask tag => "\x7b\x7b ".toList ++ tag.chars ++ " \x7d\x7d".toList

/-- The page of the pieces. -/
def pageOf (pieces : List Piece) : String := String.ofList (pieces.flatMap Piece.chars)

/-! Pieces as steps. -/

namespace Literal

def number (minus : Bool) (size : Nat) : Int := if minus then -(size : Int) else size

/-- The value of a literal; a number that no word holds has none, and zero for it. -/
def value : Literal → Value
  | .text quoted => .string quoted.text
  | .whole minus size =>
      .number ((Number.ofInt? (number minus size)).getD (.real Binary64.zero))

end Literal

def Argument.value : Argument → Value
  | .one literal => literal.value
  | .many literals => .array (literals.map Literal.value)

/-- The arguments that a function gets: one that is no list is one argument. -/
def Given.values : Given → List Value
  | .nothing => []
  | .one literal => [literal.value]
  | .many literals => literals.map Literal.value

def Tag.asking : Tag → Asking
  | .read key preset => .value key.text (preset.map Literal.value)
  | .call name given => .call name.text given.values

def Asking.step : Asking → (Except Fault Value → Action) → Action
  | .value key fallback, next => .lookup key fallback next
  | .call name args, next => .invoke name args next

def Asking.dialog : Asking → Dialog (Except Fault Value)
  | .value key fallback => .askValue key fallback
  | .call name args => .askCall name args

/-- The program that writes the texts and the results in order, and fails with the first
fault of a tag as it is. -/
def programOf : List Piece → Action
  | [] => .done .null
  | .text s :: rest => .write s (programOf rest)
  | .ask tag :: rest => tag.asking.step fun
      | .ok value => .write value.text (programOf rest)
      | .error fault => .fail fault

example : pageOf [.text "Dear ", .ask (.read ⟨.double, "who"⟩ (some (.text ⟨.single, "all"⟩))),
    .ask (.call ⟨.double, "sum"⟩ (.many [.whole true 5, .whole false 12]))] =
    "Dear \x7b\x7b c(key=\"who\", default='all') \x7d\x7d" ++
      "\x7b\x7b f(name=\"sum\", args=[-5, 12]) \x7d\x7d" := by decide +kernel

/-! Pieces that a page can be made of. -/

def Quoted.Plain (quoted : Quoted) : Prop :=
  ∀ quote : Quote, quote.mark ∉ quoted.text.toList

def Literal.Plain : Literal → Prop
  | .text quoted => quoted.Plain
  | .whole minus size =>
      Whole.least ≤ number minus size ∧ number minus size ≤ Whole.greatestSigned

def Argument.Plain : Argument → Prop
  | .one literal => literal.Plain
  | .many literals => ∀ literal ∈ literals, literal.Plain

def Piece.Plain : Piece → Prop
  | .text s => '\x7b' ∉ s.toList ∧ '\x7d' ∉ s.toList
  | .ask tag => ∀ argument ∈ tag.arguments, argument.2.Plain

instance (quoted : Quoted) : Decidable quoted.Plain :=
  decidable_of_iff
    ('"' ∉ quoted.text.toList ∧ '\'' ∉ quoted.text.toList ∧ '\x60' ∉ quoted.text.toList)
    ⟨fun ⟨double, single, back⟩ quote => match quote with
      | .double => double
      | .single => single
      | .back => back,
    fun plain => ⟨plain .double, plain .single, plain .back⟩⟩

instance : DecidablePred Literal.Plain
  | .text quoted => inferInstanceAs (Decidable quoted.Plain)
  | .whole minus size => inferInstanceAs (Decidable
      (Whole.least ≤ Literal.number minus size ∧ Literal.number minus size ≤ Whole.greatestSigned))

instance : DecidablePred Argument.Plain
  | .one literal => inferInstanceAs (Decidable literal.Plain)
  | .many literals => inferInstanceAs (Decidable (∀ literal ∈ literals, literal.Plain))

instance : DecidablePred Piece.Plain
  | .text s => inferInstanceAs (Decidable ('\x7b' ∉ s.toList ∧ '\x7d' ∉ s.toList))
  | .ask tag => inferInstanceAs (Decidable (∀ argument ∈ tag.arguments, argument.2.Plain))

/-! Pieces as syntax. -/

namespace Markup

def literalTerm : Literal → Term
  | .text quoted => .text quoted.text
  | .whole minus size => .whole (Literal.number minus size)

def literalExpr (literal : Literal) : Expr := .ofTerm (literalTerm literal)

def argumentExpr : Argument → Expr
  | .one literal => literalExpr literal
  | .many literals => .ofTerm (.array (literals.map literalExpr))

def namedExpr (argument : String × Argument) : String × Expr :=
  (argument.1, argumentExpr argument.2)

def tagCall (tag : Tag) : Call := .mk tag.tool (tag.arguments.map namedExpr)

def tagExpr (tag : Tag) : Expr := .ofTerm (.call (tagCall tag))

def textNodes (held : List Char) : List Node :=
  if held.isEmpty then [] else [.text (String.ofList held)]

/-- The nodes of pieces after some text. Texts side by side are one node. -/
def pieceNodes (held : List Char) : List Piece → List Node
  | [] => textNodes held
  | .text s :: rest => pieceNodes (held ++ s.toList) rest
  | .ask tag :: rest =>
      textNodes held ++ .show ⟨false, false⟩ (tagExpr tag) :: pieceNodes [] rest

end Markup

end Stencil
