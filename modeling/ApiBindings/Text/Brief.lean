import ApiBindings.Text.Blank

/-!
# One-line summaries

A fragment of several lines is summarised by its first and last lines that are not blank.
-/

namespace ApiBindings.Text

/-- The trimmed lines of a fragment that are not blank. -/
def fullLines (fragment : List Char) : List (List Char) :=
  ((lines fragment).map trimBlank).filter (!·.isEmpty)

/-- The first and last full lines joined by an ellipsis; a lone full line stands for itself. -/
def brief (fragment : String) : String :=
  match fullLines fragment.toList with
  | [] => ""
  | [only] => String.ofList only
  | first :: second :: rest =>
    String.ofList (first ++ " ... ".toList ++ (second :: rest).getLast (by simp))

end ApiBindings.Text
