import ApiBindings.Service.Operation
import ApiBindings.Service.Metadata

/-!
# Reports of a generation

Generating text gives a report: what happened on the way, in order, and at the end a result or the
cause of failure. What happened before a failure stays in the report.
-/

namespace ApiBindings.Bindings

open Service (HttpBinding Protocol)

/-- Something that happened while text was generated. -/
inductive Event where
  /-- A shape came up that was being expanded already, at the end of the given chain. -/
  | recursion (shape : String) (chain : List String)
  /-- The binding of an operation was finished. -/
  | bindingFinished (function : String)
  /-- The bindings of a service were finished. -/
  | serviceFinished (moduleName : String) (operations : Nat)
  deriving DecidableEq, Repr

/-- How much a log entry matters. -/
inductive Level where
  | debug
  | info
  | warning
  deriving DecidableEq, Repr

/-- An entry of a log: a fixed message, and fields for what varies. -/
structure LogEntry where
  level : Level
  message : String
  fields : List (String × String)
  deriving DecidableEq, Repr

/-- The log entry of an event. -/
def Event.logEntry : Event → LogEntry
  | recursion shape chain =>
    ⟨.warning, "recursive shape reference, rendering kind tag instead",
      [("shape", shape), ("stack", " -> ".intercalate chain)]⟩
  | bindingFinished function => ⟨.debug, "generated binding", [("function", function)]⟩
  | serviceFinished moduleName operations =>
    ⟨.info, "generated service bindings",
      [("module", moduleName), ("operations", toString operations)]⟩

/-- How the request of an operation contradicts the protocol of its service. -/
inductive Contradiction where
  | notPostRoot (protocol : Protocol) (http : HttpBinding)
  | pathParameters (uri : String) (protocol : Protocol)

/-- The wording of a contradiction. -/
def Contradiction.message : Contradiction → String
  | notPostRoot protocol http =>
    "expected POST / for a " ++ protocol.name ++ " service, found " ++ http.method.name ++ " " ++
      http.requestUri
  | pathParameters uri protocol =>
    "request URI '" ++ uri ++ "' has path parameters but protocol '" ++ protocol.name ++
      "' is not REST-style"

/-- Why nothing can be generated. -/
inductive Failure where
  | contradiction (operation : String) (reason : Contradiction)
  | notStructure (shape kind : String)
  | unknownShape (name : String)
  | noModuleName (source : String)

/-- What is wrong where a module name cannot be made. -/
def moduleNameComplaint (source : String) : String :=
  "cannot derive a module name from '" ++ source ++ "'"

/-- The wording of a failure. -/
def Failure.message : Failure → String
  | contradiction operation reason =>
    "Schema inconsistency in operation '" ++ operation ++ "': " ++ reason.message
  | notStructure shape kind =>
    "Top-level rendering requires a structure, but '" ++ shape ++ "' is a " ++ kind
  | unknownShape name => "Unknown shape '" ++ name ++ "'"
  | noModuleName source => "Invalid configuration: " ++ moduleNameComplaint source

/-- The events of a generation and its outcome. -/
structure Report (α : Type) where
  events : List Event
  outcome : Except Failure α

namespace Report

variable {α β : Type}

/-- A result without events. -/
def done (a : α) : Report α := ⟨[], .ok a⟩

/-- A failure without events. -/
def fail (f : Failure) : Report α := ⟨[], .error f⟩

/-- An event and nothing else. -/
def note (e : Event) : Report Unit := ⟨[e], .ok ()⟩

/-- Goes on with the result, if there is one. -/
def bind (r : Report α) (f : α → Report β) : Report β :=
  match r.outcome with
  | .ok a => ⟨r.events ++ (f a).events, (f a).outcome⟩
  | .error e => ⟨r.events, .error e⟩

instance : Monad Report where
  pure := done
  bind := bind

/-- Treats the elements of a list one after the other, up to the first failure. -/
def each {γ : Type} (f : γ → Report α) : List γ → Report (List α)
  | [] => done []
  | c :: rest => (f c).bind fun a => (each f rest).bind fun as => done (a :: as)

/-- Changes the result. -/
def map (f : α → β) (r : Report α) : Report β := ⟨r.events, r.outcome.map f⟩

/-- Nothing precedes a plain result. -/
@[simp] theorem done_bind (a : α) (f : α → Report β) : (done a).bind f = f a := rfl

/-- A chain of steps may be read in either grouping. -/
theorem bind_assoc {γ : Type} (r : Report α) (f : α → Report β) (g : β → Report γ) :
    (r.bind f).bind g = r.bind fun a => (f a).bind g := by
  cases h : r.outcome with
  | error e => simp [bind, h]
  | ok a => cases hf : (f a).outcome <;> simp [bind, h, hf]

end Report

end ApiBindings.Bindings
