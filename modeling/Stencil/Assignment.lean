import Stencil.Fault
import Stencil.Json
import Stencil.Unicode.Blank

/-!
Assignments on the command line. The first equals sign parts the key from the
value; the value is JSON if it reads as such, and else text as it stands.
-/

namespace Stencil

structure Assignment where
  key : String
  value : Value

namespace Assignment

def parse (source : String) : Except Fault Assignment :=
  let refused : Except Fault Assignment := .error (.command (.invalidAssignment source))
  let chars := source.toList
  match chars.dropWhile (· != '=') with
  | [] => refused
  | _ :: raw =>
      let key := trimText (String.ofList (chars.takeWhile (· != '=')))
      let raw := String.ofList raw
      if key.isEmpty then refused else .ok ⟨key, (Json.parse? raw).getD (.string raw)⟩

end Assignment

end Stencil
