import ApiBindings.Text.Blank

/-!
# Documentation markup

Documentation comes in whatever markup a description uses. A formatter turns it into the text that
is embedded; every piece of documentation passes through it once.
-/

namespace ApiBindings.Bindings

/-- A conversion of documentation markup. -/
abbrev Formatter := String → String

/-- Formatted documentation without surrounding blanks; none if nothing is left. -/
def Formatter.embedded? (format : Formatter) (markup : Option String) : Option String :=
  (markup.map fun m => Text.trim (format m)).filter fun text => !text.isEmpty

end ApiBindings.Bindings
