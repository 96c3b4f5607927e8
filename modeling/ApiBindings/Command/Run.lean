import ApiBindings.Bindings.Bundle
import ApiBindings.Command.Arguments
import ApiBindings.Files.Write
import ApiBindings.Service.Document

/-!
# The command

A run of the command as a plan over the file tree. Everything is generated before anything is
written, and a dry run shows what would be written and writes nothing.
-/

namespace ApiBindings.Command

open Bindings Files Service

/-- Why a run fails. -/
inductive Fault where
  | malformed (text : String)
  | generation (failure : Failure)
  | file (fault : FileFault)

/-- The diagnostic form of a refusal. -/
def refusalText (r : Refusal) : String :=
  match r.code? with
  | some code =>
    "Os \x7b code: " ++ toString code ++ ", kind: " ++ r.kind ++ ", message: " ++
      Text.quoted r.reason ++ " \x7d"
  | none => "Error \x7b kind: " ++ r.kind ++ ", message: " ++ Text.quoted r.reason ++ " \x7d"

/-- The diagnostic form of a fault. -/
def Fault.text : Fault → String
  | malformed text => "Definition(Parse(Error(" ++ Text.quoted text ++ ")))"
  | generation (.contradiction operation reason) =>
    "SchemaInconsistency \x7b operation: " ++ Text.quoted operation ++ ", reason: " ++
      Text.quoted reason.message ++ " \x7d"
  | generation (.notStructure shape kind) =>
    "RenderAssertion \x7b shape: " ++ Text.quoted shape ++ ", kind: " ++ Text.quoted kind ++ " \x7d"
  | generation (.unknownShape name) => "Definition(UnknownShape(" ++ Text.quoted name ++ "))"
  | generation (.noModuleName source) =>
    "ConfigError(" ++ Text.quoted (moduleNameComplaint source) ++ ")"
  | file (.noFileName path) => "ConfigError(" ++ Text.quoted (fileNameComplaint path) ++ ")"
  | file (.unwritable path refusal) =>
    "WriteError \x7b path: " ++ Text.quoted path ++ ", source: " ++ refusalText refusal ++ " \x7d"
  | file (.unreadable path refusal) =>
    "ReadError \x7b path: " ++ Text.quoted path ++ ", source: " ++ refusalText refusal ++ " \x7d"

/-- How a run ends: its exit code and what it prints. -/
structure Ending where
  exit : Nat
  stdout : String
  stderr : String
  deriving DecidableEq, Repr

/-- The end of a run that fails after printing notes. -/
def Ending.failed (notes : String) (fault : Fault) : Ending :=
  ⟨1, "", notes ++ "Error: " ++ fault.text ++ "\n"⟩

/-- Reads the service description. That a directory is none is noticed on reading it, not on
opening it. -/
def readDescription (path : String) : Plan (Except Fault Description) :=
  (Plan.ask (.read (.ofText path))).bind fun
    | .error .isDirectory => .done (.error (.malformed Refusal.isDirectory.message))
    | .error refusal => .done (.error (.file (.unreadable path refusal)))
    | .ok bytes =>
      .done ((Description.ofBytes bytes).mapError fun fault => .malformed fault.message)

/-- Adds the examples of a file, if one is given. -/
def readExamples (d : Description) : Option String → Plan (Except Fault Description)
  | none => .done (.ok d)
  | some path => (readText (.ofText path)).bind fun
    | .error fault => .done (.error (.file fault))
    | .ok text =>
      .done ((d.addExamplesOfText text).mapError fun fault => .malformed fault.message)

/-- The lines that a verbose run starts with. -/
def openingNotes (s : Settings) (d : Description) : String :=
  if s.verbosity = 0 then ""
  else
    "Loaded " ++ d.metadata.endpointPrefix ++ " (" ++ d.metadata.protocol.name ++
    " protocol, " ++ toString d.operations.size ++ " operations)\n" ++
    if s.dryRun then "Dry run mode - no files will be written\n" else ""

/-- The files of a bundle under a directory, with their contents. -/
def bundleFiles (output : String) (b : Bundle) : List (Path × String) :=
  [((Path.ofText output).join b.bindingsFile, b.bindings),
    ((Path.ofText output).join b.dispatcherFile, b.dispatcher)]

/-- The text that shows a file instead of writing it. -/
def preview (name content : String) : String :=
  "=== " ++ name ++ " ===\n" ++ content ++ "\n\n"

/-- Shows or writes a bundle. -/
def deliver (s : Settings) (notes : String) (b : Bundle) : Plan Ending :=
  if s.dryRun then
    .done ⟨0, preview b.bindingsFile b.bindings ++ preview b.dispatcherFile b.dispatcher, notes⟩
  else (writeFiles (bundleFiles s.output b)).bind fun
    | .error fault => .done (.failed notes (.file fault))
    | .ok () => .done ⟨0, "", notes ++ String.join ((bundleFiles s.output b).map fun (p, _) =>
      "Generated " ++ p.text ++ "\n")⟩

/-- Reads, generates and delivers. -/
def runSettings (s : Settings) : Plan Ending :=
  ((readDescription s.service).andThen fun d => readExamples d s.examples).bind fun
    | .error fault => .done (.failed "" fault)
    | .ok d =>
      match (generate d id s.moduleName).outcome with
      | .error failure => .done (.failed (openingNotes s d) (.generation failure))
      | .ok b => deliver s (openingNotes s d) b

/-- A run of the command. Misuse ends with code 2. -/
def run (arguments : List String) : Plan Ending :=
  match request arguments with
  | none => .done ⟨2, "", ""⟩
  | some .showVersion => .done ⟨0, "sdkgen 0.1.0\n", ""⟩
  | some .showHelp => .done ⟨0, "", ""⟩
  | some (.run s) => runSettings s

end ApiBindings.Command
