import ApiBindings.Files.Plan

/-!
# Writing files as a whole

A file is written under a hidden name beside its own and then renamed, so that a reader finds
either what was there before or the whole new content. The directories on the way are made first.
-/

namespace ApiBindings.Files

/-- Why a file is not written or read. -/
inductive FileFault where
  | noFileName (path : String)
  | unwritable (path : String) (refusal : Refusal)
  | unreadable (path : String) (refusal : Refusal)
  deriving DecidableEq, Repr

/-- What is wrong with a path that names no file. -/
def fileNameComplaint (path : String) : String := "'" ++ path ++ "' does not name a file"

/-- The wording of a fault. -/
def FileFault.message : FileFault → String
  | noFileName path => "Invalid configuration: " ++ fileNameComplaint path
  | unwritable path refusal =>
    "Failed to write output file '" ++ path ++ "': " ++ refusal.message
  | unreadable path refusal => "Failed to read '" ++ path ++ "': " ++ refusal.message

/-- Accepts a refusal to make a directory that is there already. -/
def acceptDirectory (p : Path) (refusal : Refusal) : Plan (Except Refusal Unit) :=
  (Plan.ask (.isDirectory p)).bind fun found =>
    .done (if found then .ok () else .error refusal)

/-- Makes a directory and those above it, where they are missing. -/
def makeDirectories (p : Path) : Plan (Except Refusal Unit) :=
  if p.isEmpty then .done (.ok ())
  else (Plan.ask (.makeDirectory p)).bind fun
    | .ok () => .done (.ok ())
    | .error .notFound =>
      match _h : p.parent? with
      | none => .done (.error .notFound)
      | some parent => (makeDirectories parent).andThen fun () =>
        (Plan.ask (.makeDirectory p)).bind fun
          | .ok () => .done (.ok ())
          | .error refusal => acceptDirectory p refusal
    | .error refusal => acceptDirectory p refusal
termination_by p.depth
decreasing_by exact Path.depth_lt_of_parent? _h

/-- The hidden name under which a file is written first. -/
def stagedName (name : String) : String := "." ++ name ++ ".tmp"

/-- Fails with a fault at a path. -/
def blame {α : Type} (fault : String → Refusal → FileFault) (p : Path)
    (plan : Plan (Except Refusal α)) : Plan (Except FileFault α) :=
  plan.bind fun answer => .done (answer.mapError (fault p.text))

/-- Writes a text to a file as a whole. If the renaming is refused the hidden file is removed. -/
def writeFile (p : Path) (content : String) : Plan (Except FileFault Unit) :=
  match p.fileName? with
  | none => .done (.error (.noFileName p.text))
  | some name =>
    let staged := p.directory.join (stagedName name)
    (blame .unwritable p.directory (makeDirectories p.directory)).andThen fun () =>
      (blame .unwritable staged (Plan.ask (.write staged content.toUTF8))).andThen fun () =>
        (Plan.ask (.rename staged p)).bind fun
          | .ok () => .done (.ok ())
          | .error refusal => (Plan.ask (.remove staged)).bind fun _ =>
            .done (.error (.unwritable p.text refusal))

/-- Writes files one after the other, up to the first that is not written. -/
def writeFiles : List (Path × String) → Plan (Except FileFault Unit)
  | [] => .done (.ok ())
  | (p, content) :: rest => (writeFile p content).andThen fun () => writeFiles rest

/-- Reads a file of text. -/
def readText (p : Path) : Plan (Except FileFault String) :=
  (Plan.ask (.read p)).bind fun
    | .error refusal => .done (.error (.unreadable p.text refusal))
    | .ok bytes => .done (match String.fromUTF8? bytes with
      | some text => .ok text
      | none => .error (.unreadable p.text .notUtf8))

end ApiBindings.Files
