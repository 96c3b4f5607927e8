/-!
# Enumerations in prose
-/

namespace ApiBindings.Text

/-- Words joined the way a sentence lists alternatives: commas, and `or` before the last. -/
def joinOr : List String → String
  | [] => ""
  | [only] => only
  | [first, last] => first ++ " or " ++ last
  | word :: rest => word ++ ", " ++ joinOr rest

/-- A word in front of two or more is set off by a comma. -/
theorem joinOr_cons_cons_cons (a b c : String) (rest : List String) :
    joinOr (a :: b :: c :: rest) = a ++ ", " ++ joinOr (b :: c :: rest) := rfl

end ApiBindings.Text
