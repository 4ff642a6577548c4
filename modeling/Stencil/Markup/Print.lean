import Stencil.Value.Text

/-!
How a page prints values: strings as they are, nothing for null, floats written
out, arrays in brackets. And when a value counts as true.
-/

namespace Stencil.Markup

mutual

def printed : Value → String
  | .null => ""
  | .bool b => toString b
  | .number n => n.textIn pageFloat
  | .string s => s
  | .array items => "[" ++ String.intercalate ", " (printedItems items) ++ "]"
  | .object _ => "[object]"

def printedItems : List Value → List String
  | [] => []
  | v :: rest => printed v :: printedItems rest

end

def isTruthy : Value → Bool
  | .null => false
  | .bool b => b
  | .number (.whole n) => n.value != 0
  | .number (.real x) => x.units != 0
  | .string s => !s.isEmpty
  | .array items => !items.isEmpty
  | .object entries => !entries.isEmpty

end Stencil.Markup
