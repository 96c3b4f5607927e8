import ApiBindings.Text.Blank

/-!
# Placeholders of a request URI

A request URI marks its path parameters with braces, as in `/{Bucket}/{Key+}`. A `+` at the end of
a parameter lets it span several segments and is no part of its name.
-/

namespace ApiBindings.Text

/-- The texts between an opening brace and the next closing one. Outside braces the first argument
is `none`; inside, it holds what was read since the opening brace, in reverse. -/
def bracedFrom : Option (List Char) → List Char → List (List Char)
  | _, [] => []
  | none, c :: rest => if c = '{' then bracedFrom (some []) rest else bracedFrom none rest
  | some read, c :: rest =>
    if c = '}' then read.reverse :: bracedFrom none rest else bracedFrom (some (c :: read)) rest

/-- The texts in braces, in order. -/
def braced (uri : List Char) : List (List Char) :=
  bracedFrom none uri

/-- The path parameters of a request URI: the texts in braces without their final `+` signs,
leaving out those that have nothing else. -/
def pathParameters (uri : String) : List String :=
  ((braced uri.toList).map (dropTail (· == '+'))).filterMap fun name =>
    if name.isEmpty then none else some (String.ofList name)

/-- Whether a request URI has any path parameter. -/
def hasPathParameters (uri : String) : Bool :=
  !(pathParameters uri).isEmpty

/-- Text before the first opening brace holds no parameter. -/
theorem braced_append_of_not_mem {a : List Char} (b : List Char) (h : '{' ∉ a) :
    braced (a ++ b) = braced b := by
  induction a with
  | nil => rfl
  | cons c a ih =>
    simp only [List.mem_cons, not_or] at h
    simpa [braced, bracedFrom, Ne.symm h.1] using ih h.2

end ApiBindings.Text
