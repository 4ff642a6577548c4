import Stencil.Fault

/-!
The report of a failed render: where, with which context, and why, and last the
names that may have been meant.
-/

namespace Stencil.Fault

def joinNames (names : List String) : String := String.intercalate ", " names

def site? : Fault → Option RenderSite
  | .setup site _ => some site
  | .evaluation site _ _ => some site
  | _ => none

def contextLine : Fault → String
  | .evaluation _ context _ =>
      match context.keys with
      | some [] => "Context: (empty)\n"
      | some keys => "Context keys: " ++ joinNames keys ++ "\n"
      | none => "Context: " ++ context.kind ++ "\n"
  | _ => "Context: (not evaluated)\n"

/-- Suggestions, or else all functions of the template that failed. -/
def hintLines (site : RenderSite) (fault : Fault) : String :=
  match fault.find? .missingFunction with
  | some (.missingFunction _ []) =>
      if site.functions.isEmpty then ""
      else "\nAvailable functions: " ++ joinNames site.functions ++ "\n"
  | some (.missingFunction _ suggestions) =>
      "\nDid you mean: " ++ joinNames suggestions ++ "?\n"
  | _ => ""

def arrowLine (text : String) : String := "  → " ++ text ++ "\n"

def causeLines (fault : Fault) : String := String.join (fault.causeTexts.map arrowLine)

def heading (site : RenderSite) (fault : Fault) : String :=
  "ERROR: Template Render Failed\n\nTemplate: " ++ site.template ++ "\n" ++
    (match site.location with
      | some location => "Location: " ++ location ++ "\n"
      | none => "") ++
    fault.contextLine ++ "\n" ++ fault.text ++ "\n"

def report (fault : Fault) : String :=
  match fault.site? with
  | none => fault.text
  | some site => fault.heading site ++ fault.causeLines ++ fault.hintLines site

end Stencil.Fault
