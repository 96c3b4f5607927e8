/-!
# Text inside a triple-quoted docstring

Julia reads a backslash, a dollar sign and three double quotes in a row as more than themselves.
Escaping them keeps the text of a docstring as it was and cannot end the docstring early.
-/

namespace ApiBindings.Text

/-- Characters of a docstring's source that read back as the given ones. Quotes are escaped in
groups of three from the left, which leaves at most two of them bare in a row. -/
def docstringChars : List Char → List Char
  | [] => []
  | '\\' :: rest => '\\' :: '\\' :: docstringChars rest
  | '$' :: rest => '\\' :: '$' :: docstringChars rest
  | '"' :: '"' :: '"' :: rest => '\\' :: '"' :: '\\' :: '"' :: '\\' :: '"' :: docstringChars rest
  | c :: rest => c :: docstringChars rest

/-- The source of a docstring body that reads back as `text`. -/
def escapeDocstring (text : String) : String :=
  String.ofList (docstringChars text.toList)

end ApiBindings.Text
