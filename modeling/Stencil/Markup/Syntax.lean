import Stencil.Number
import Stencil.Value.Inspect

/-!
The syntax of pages: text with tags, and the expressions in the tags. A page is
a list of nodes. Each tag remembers at which of its edges the neighbouring text
loses its white space.
-/

namespace Stencil.Markup

inductive MathOp where
  | mul | div | add | sub | modulo
  deriving DecidableEq

inductive LogicOp where
  | greater | atLeast | less | atMost | equal | different | both | either
  deriving DecidableEq

mutual

/-- A term with its filters. A negated expression is a boolean. -/
inductive Expr where
  | mk (term : Term) (negated : Bool) (filters : List Call)

inductive Term where
  | text (s : String)
  | whole (n : Int)
  | real (x : Binary64)
  | bool (b : Bool)
  | path (name : String)
  | math (op : MathOp) (left right : Expr)
  | logic (op : LogicOp) (left right : Expr)
  | test (path : String) (negated : Bool) (name : String) (args : List Expr)
  | macroCall (space name : String) (args : List (String × Expr))
  | call (call : Call)
  | array (items : List Expr)
  | concat (parts : List Term)
  | membership (item container : Expr) (negated : Bool)

inductive Call where
  | mk (name : String) (args : List (String × Expr))

end

namespace Expr

def term : Expr → Term
  | .mk term _ _ => term

def negated : Expr → Bool
  | .mk _ negated _ => negated

def filters : Expr → List Call
  | .mk _ _ filters => filters

def ofTerm (term : Term) : Expr := .mk term false []

def withNegation (e : Expr) (negated : Bool) : Expr := .mk e.term negated e.filters

end Expr

instance : Inhabited Expr := ⟨.ofTerm (.bool false)⟩

namespace Call

def name : Call → String
  | .mk name _ => name

def args : Call → List (String × Expr)
  | .mk _ args => args

end Call

/-- Whether the text on either side of a tag loses its white space. -/
structure Edges where
  left : Bool
  right : Bool
  deriving DecidableEq

inductive Node where
  | text (s : String)
  | show (edges : Edges) (e : Expr)
  | comment (edges : Edges)
  | assign (edges : Edges) (name : String) (e : Expr) (everywhere : Bool)
  | include (edges : Edges) (names : List String) (ignoreMissing : Bool)
  | inherit (edges : Edges) (name : String)
  | borrow (edges : Edges) (name : String)
  | raw (start : Edges) (s : String) (finish : Edges)
  | define (start : Edges) (name : String) (params : List (String × Option Expr))
      (body : List Node) (finish : Edges)
  | section (start : Edges) (filter : Call) (body : List Node) (finish : Edges)
  | block (start : Edges) (name : String) (body : List Node) (finish : Edges)
  | superBlock
  | loop (start : Edges) (key : Option String) (item : String) (container : Expr)
      (body : List Node) (otherwise : Option (List Node)) (finish : Edges)
  | branch (cases : List (Edges × Expr × List Node)) (otherwise : Option (Edges × List Node))
      (finish : Edges)
  | leave (edges : Edges)
  | proceed (edges : Edges)

/-! Descriptions of expressions, for faults that quote one. -/

namespace MathOp

def inspect : MathOp → String
  | .mul => "Mul"
  | .div => "Div"
  | .add => "Add"
  | .sub => "Sub"
  | .modulo => "Modulo"

end MathOp

namespace LogicOp

def inspect : LogicOp → String
  | .greater => "Gt"
  | .atLeast => "Gte"
  | .less => "Lt"
  | .atMost => "Lte"
  | .equal => "Eq"
  | .different => "NotEq"
  | .both => "And"
  | .either => "Or"

end LogicOp

mutual

def Expr.inspect : Expr → String
  | .mk term negated filters =>
      inspectRecord "Expr" [("val", term.inspect), ("negated", toString negated),
        ("filters", inspectList "[" "]" (inspectCalls filters))]

def Term.inspect : Term → String
  | .text s => "String(" ++ inspectText s ++ ")"
  | .whole n => "Int(" ++ toString n ++ ")"
  | .real x => "Float(" ++ literalFloat.text x ++ ")"
  | .bool b => "Bool(" ++ toString b ++ ")"
  | .path name => "Ident(" ++ inspectText name ++ ")"
  | .math op left right =>
      "Math(" ++ inspectRecord "MathExpr" [("lhs", left.inspect), ("rhs", right.inspect),
        ("operator", op.inspect)] ++ ")"
  | .logic op left right =>
      "Logic(" ++ inspectRecord "LogicExpr" [("lhs", left.inspect), ("rhs", right.inspect),
        ("operator", op.inspect)] ++ ")"
  | .test path negated name args =>
      "Test(" ++ inspectRecord "Test" [("ident", inspectText path),
        ("negated", toString negated), ("name", inspectText name),
        ("args", inspectList "[" "]" (inspectExprs args))] ++ ")"
  | .macroCall space name args =>
      "MacroCall(" ++ inspectRecord "MacroCall" [("namespace", inspectText space),
        ("name", inspectText name), ("args", inspectSet (inspectArgs args))] ++ ")"
  | .call call => "FunctionCall(" ++ call.inspect ++ ")"
  | .array items => "Array(" ++ inspectList "[" "]" (inspectExprs items) ++ ")"
  | .concat parts =>
      "StringConcat(" ++ inspectRecord "StringConcat"
        [("values", inspectList "[" "]" (inspectTerms parts))] ++ ")"
  | .membership item container negated =>
      "In(" ++ inspectRecord "In" [("lhs", item.inspect), ("rhs", container.inspect),
        ("negated", toString negated)] ++ ")"

def Call.inspect : Call → String
  | .mk name args =>
      inspectRecord "FunctionCall" [("name", inspectText name),
        ("args", inspectSet (inspectArgs args))]

def inspectCalls : List Call → List String
  | [] => []
  | call :: rest => call.inspect :: inspectCalls rest

def inspectExprs : List Expr → List String
  | [] => []
  | e :: rest => e.inspect :: inspectExprs rest

def inspectTerms : List Term → List String
  | [] => []
  | term :: rest => term.inspect :: inspectTerms rest

def inspectArgs : List (String × Expr) → List String
  | [] => []
  | (name, e) :: rest => (inspectText name ++ ": " ++ e.inspect) :: inspectArgs rest

end

/-! The whole-number literals of a page, in the order of the text. -/

mutual

def Expr.wholes : Expr → List Int
  | .mk term _ filters => term.wholes ++ wholesOfCalls filters

def Term.wholes : Term → List Int
  | .whole n => [n]
  | .math _ left right | .logic _ left right => left.wholes ++ right.wholes
  | .test _ _ _ args => wholesOfExprs args
  | .macroCall _ _ args => wholesOfArgs args
  | .call call => call.wholes
  | .array items => wholesOfExprs items
  | .concat parts => wholesOfTerms parts
  | .membership item container _ => item.wholes ++ container.wholes
  | .text _ | .real _ | .bool _ | .path _ => []

def Call.wholes : Call → List Int
  | .mk _ args => wholesOfArgs args

def wholesOfCalls : List Call → List Int
  | [] => []
  | call :: rest => call.wholes ++ wholesOfCalls rest

def wholesOfExprs : List Expr → List Int
  | [] => []
  | e :: rest => e.wholes ++ wholesOfExprs rest

def wholesOfTerms : List Term → List Int
  | [] => []
  | term :: rest => term.wholes ++ wholesOfTerms rest

def wholesOfArgs : List (String × Expr) → List Int
  | [] => []
  | (_, e) :: rest => e.wholes ++ wholesOfArgs rest

end

mutual

def Node.wholes : Node → List Int
  | .show _ e | .assign _ _ e _ => e.wholes
  | .define _ _ params body _ =>
      (params.filterMap Prod.snd).flatMap Expr.wholes ++ wholesOfNodes body
  | .section _ filter body _ => filter.wholes ++ wholesOfNodes body
  | .block _ _ body _ => wholesOfNodes body
  | .loop _ _ _ container body otherwise _ =>
      container.wholes ++ wholesOfNodes body ++ wholesOfOption otherwise
  | .branch cases otherwise _ => wholesOfCases cases ++ wholesOfElse otherwise
  | .text _ | .comment _ | .include .. | .inherit .. | .borrow .. | .raw .. | .superBlock
  | .leave _ | .proceed _ => []

def wholesOfNodes : List Node → List Int
  | [] => []
  | node :: rest => node.wholes ++ wholesOfNodes rest

def wholesOfOption : Option (List Node) → List Int
  | none => []
  | some nodes => wholesOfNodes nodes

def wholesOfElse : Option (Edges × List Node) → List Int
  | none => []
  | some (_, nodes) => wholesOfNodes nodes

def wholesOfCases : List (Edges × Expr × List Node) → List Int
  | [] => []
  | (_, e, nodes) :: rest => e.wholes ++ wholesOfNodes nodes ++ wholesOfCases rest

end

end Stencil.Markup
