import Stencil.Markup.Evaluation
import Stencil.Markup.Grammar
import Stencil.Markup.Trim

/-!
Pages from text to text. A page is read and checked before anything is asked:
its literals must fit, and the names of its blocks and macros must differ.
-/

namespace Stencil.Markup

mutual

def Node.blocks : Node → List (String × List Node)
  | .block _ name body _ => (name, body) :: blocksOf body
  | _ => []

def blocksOf : List Node → List (String × List Node)
  | [] => []
  | node :: rest => node.blocks ++ blocksOf rest

end

def firstRepeated (seen : List String) : List String → Option String
  | [] => none
  | name :: rest => if seen.contains name then some name else firstRepeated (name :: seen) rest

def macrosOf (nodes : List Node) :
    List (String × List (String × Option Expr) × List Node) :=
  nodes.filterMap fun node =>
    match node with
    | .define _ name params body _ => some (name, params, body)
    | _ => none

def unparsed (reason : String) : Fault :=
  .stage ("Failed to parse '" ++ pageName ++ "'") (.message reason)

/-- Other pages cannot be reached, so none can be inherited from or borrowed. -/
def unreachable (node : Node) : Option Fault :=
  match node with
  | .inherit _ name =>
      if name = pageName then
        some (.message ("Circular extend detected for template '" ++ pageName ++
          "'. Inheritance chain: \x60" ++ inspectTexts [pageName] ++ "\x60"))
      else some (.message ("Template '" ++ pageName ++ "' is inheriting from '" ++ name ++
        "', which doesn't exist or isn't loaded."))
  | .borrow _ name =>
      if name = pageName then none
      else some (.message ("Template \x60" ++ pageName ++ "\x60 loads macros from \x60" ++ name ++
        "\x60 which isn't present in Tera"))
  | _ => none

def bind (source : String) : Except Fault Book :=
  match Grammar.page source with
  | none => .error (unparsed "<syntax error>")
  | some nodes =>
      match (wholesOfNodes nodes).find? fun n => Whole.clampSigned n != n with
      | some n => .error (unparsed ("Integer out of bounds: \x60" ++ toString n ++ "\x60"))
      | none =>
          let nodes := trimPage nodes
          let blocks := blocksOf nodes
          let macros := macrosOf nodes
          match firstRepeated [] (blocks.map Prod.fst), firstRepeated [] (macros.map Prod.fst) with
          | some name, _ => .error (unparsed ("Block \x60" ++ name ++ "\x60 is duplicated"))
          | none, some name => .error (unparsed ("Macro \x60" ++ name ++ "\x60 is duplicated"))
          | none, none =>
              match nodes.findSome? unreachable with
              | some fault => .error fault
              | none => .ok ⟨nodes, blocks, macros⟩

def render (source : String) : Dialog (Except Fault String) :=
  match bind source with
  | .error fault => .done (.error fault)
  | .ok book => do
      let (outcome, _) ← (renderPage book book.nodes).run.run [Frame.plain .page []]
      return outcome

end Stencil.Markup
