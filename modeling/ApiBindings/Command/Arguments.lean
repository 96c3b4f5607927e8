/-!
# Command-line arguments

What the command is asked to do. Arguments are taken from left to right; asking for the version or
for help ends the reading, and whatever is wrong before that is a usage error.
-/

namespace ApiBindings.Command

/-- What a run works on. -/
structure Settings where
  service : String
  examples : Option String
  output : String
  moduleName : Option String
  dryRun : Bool
  verbosity : Nat
  deriving DecidableEq, Repr

/-- What the command is asked to do. -/
inductive Request where
  | run (settings : Settings)
  | showVersion
  | showHelp
  deriving DecidableEq, Repr

/-- The options that take a value. -/
inductive ValueOption where
  | service
  | examples
  | output
  | moduleName
  deriving DecidableEq, Repr

namespace ValueOption

/-- The option of a letter. -/
def ofLetter? : Char → Option ValueOption
  | 's' => some service
  | 'e' => some examples
  | 'o' => some output
  | 'm' => some moduleName
  | _ => none

/-- The option of a word. -/
def ofWord? : String → Option ValueOption
  | "service" => some service
  | "examples" => some examples
  | "output" => some output
  | "module" => some moduleName
  | _ => none

/-- Whether an option accepts a value: paths must not be empty. -/
def accepts : ValueOption → String → Bool
  | moduleName, _ => true
  | _, value => !value.isEmpty

end ValueOption

/-- The options given so far. -/
structure Given where
  values : List (ValueOption × String)
  dryRun : Bool
  verbosity : Nat

namespace Given

/-- No options. -/
def none : Given := ⟨[], false, 0⟩

/-- The value of an option. -/
def value? (g : Given) (o : ValueOption) : Option String := g.values.lookup o

/-- Adds the value of an option, which must be new and acceptable. -/
def add? (g : Given) (o : ValueOption) (value : String) : Option Given :=
  if (g.value? o).isNone && o.accepts value then
    some { g with values := (o, value) :: g.values }
  else Option.none

/-- The settings, if the service is given. -/
def settings? (g : Given) : Option Settings :=
  (g.value? .service).map fun service =>
    { service := service
      examples := g.value? .examples
      output := (g.value? .output).getD "out"
      moduleName := g.value? .moduleName
      dryRun := g.dryRun
      verbosity := g.verbosity }

end Given

/-- Where the reading of an argument leads: on, on with a value that is due, or to an end. -/
inductive Step where
  | next (g : Given)
  | valueDue (g : Given) (o : ValueOption)
  | finished (r : Request)
  | misused

/-- The step of adding a value. -/
def Step.adding (g : Given) (o : ValueOption) (value : String) : Step :=
  match g.add? o value with
  | some g => next g
  | none => misused

/-- Reads the letters behind a dash. A letter of an option with a value takes the others as its
value, behind an equals sign or not. -/
def letters (g : Given) : List Char → Step
  | [] => .next g
  | 'v' :: rest => letters { g with verbosity := g.verbosity + 1 } rest
  | 'V' :: _ => .finished .showVersion
  | 'h' :: _ => .finished .showHelp
  | c :: rest =>
    match ValueOption.ofLetter? c, rest with
    | none, _ => .misused
    | some o, [] => .valueDue g o
    | some o, '=' :: value => .adding g o (String.ofList value)
    | some o, value => .adding g o (String.ofList value)

/-- Reads a word behind two dashes, with the value behind its equals sign if there is one. -/
def word (g : Given) (name : String) (value? : Option String) : Step :=
  match ValueOption.ofWord? name, value? with
  | some o, none => .valueDue g o
  | some o, some value => .adding g o value
  | none, some _ => .misused
  | none, none =>
    match name with
    | "dry-run" => if g.dryRun then .misused else .next { g with dryRun := true }
    | "verbose" => .next { g with verbosity := g.verbosity + 1 }
    | "version" => .finished .showVersion
    | "help" => .finished .showHelp
    | _ => .misused

/-- The text before the first equals sign and the text behind it. -/
def splitEquals (s : List Char) : String × Option String :=
  match s.dropWhile (· ≠ '=') with
  | [] => (String.ofList s, none)
  | _ :: value => (String.ofList (s.takeWhile (· ≠ '=')), some (String.ofList value))

/-- Reads one argument other than the two dashes that end the options. -/
def argument (g : Given) (text : String) : Step :=
  match text.toList with
  | '-' :: '-' :: rest => word g (splitEquals rest).1 (splitEquals rest).2
  | '-' :: c :: rest => letters g (c :: rest)
  | _ => .misused

/-- Whether an argument can be the value of an option before it: a dash alone can, but nothing
else that starts with one. -/
def isValue (text : String) : Bool :=
  match text.toList with
  | '-' :: _ :: _ => false
  | _ => true

/-- Reads arguments after those given so far. There is no result if they are misused. -/
def requestFrom (g : Given) : List String → Option Request
  | [] => g.settings?.map .run
  | "--" :: rest => if rest.isEmpty then g.settings?.map .run else none
  | text :: rest =>
    match argument g text, rest with
    | .next g, rest => requestFrom g rest
    | .finished r, _ => some r
    | .misused, _ => none
    | .valueDue _ _, [] => none
    | .valueDue g o, value :: rest =>
      if isValue value then (g.add? o value).bind fun g => requestFrom g rest else none

/-- What a list of arguments asks for. -/
def request (arguments : List String) : Option Request :=
  requestFrom .none arguments

end ApiBindings.Command
