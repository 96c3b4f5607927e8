import ApiBindings.Files.Path
import Std.Data.ExtTreeMap

/-!
# File trees

A tree of directories and regular files, without links. Relative paths start at its root, and
nothing lies above it. Following a path may fail the way an operating system words it.
-/

namespace ApiBindings.Files

/-- Why the operating system refuses a call. The last two are found before it is asked, or in what
it answers. A tree denies nothing: that takes permissions, which trees do not have. -/
inductive Refusal where
  | notFound
  | denied
  | busy
  | alreadyExists
  | notDirectory
  | isDirectory
  | nameTooLong
  | nulInPath
  | notUtf8
  deriving DecidableEq, Repr

namespace Refusal

/-- The number of a refusal, if it has one. -/
def code? : Refusal → Option Nat
  | notFound => some 2
  | denied => some 13
  | busy => some 16
  | alreadyExists => some 17
  | notDirectory => some 20
  | isDirectory => some 21
  | nameTooLong => some 36
  | nulInPath | notUtf8 => none

/-- The sort that a refusal is filed under. -/
def kind : Refusal → String
  | notFound => "NotFound"
  | denied => "PermissionDenied"
  | busy => "ResourceBusy"
  | alreadyExists => "AlreadyExists"
  | notDirectory => "NotADirectory"
  | isDirectory => "IsADirectory"
  | nameTooLong => "InvalidFilename"
  | nulInPath => "InvalidInput"
  | notUtf8 => "InvalidData"

/-- The wording of a refusal. -/
def reason : Refusal → String
  | notFound => "No such file or directory"
  | denied => "Permission denied"
  | busy => "Device or resource busy"
  | alreadyExists => "File exists"
  | notDirectory => "Not a directory"
  | isDirectory => "Is a directory"
  | nameTooLong => "File name too long"
  | nulInPath => "file name contained an unexpected NUL byte"
  | notUtf8 => "stream did not contain valid UTF-8"

/-- The wording of a refusal with its number. -/
def message (r : Refusal) : String :=
  match r.code? with
  | some code => r.reason ++ " (os error " ++ toString code ++ ")"
  | none => r.reason

end Refusal

/-- A place in a tree: the names on the way from its root. -/
abbrev Location := List String

/-- What is at a place. A file holds bytes, which need not be those of a text. -/
inductive Node where
  | directory
  | file (content : ByteArray)

instance : DecidableEq Node
  | .directory, .directory => .isTrue rfl
  | .file a, .file b =>
    decidable_of_iff (a.data = b.data) (by rw [Node.file.injEq, ByteArray.ext_iff])
  | .directory, .file _ | .file _, .directory => .isFalse nofun

/-- The nodes of a tree by their places. The root is a directory and is not listed. -/
abbrev Tree := Std.ExtTreeMap Location Node

/-- Greatest number of bytes in a name. -/
def nameLimit : Nat := 255

/-- Number of bytes that a path must stay below. -/
def pathLimit : Nat := 4096

namespace Tree

/-- The node at a place. -/
def node? (t : Tree) (place : Location) : Option Node :=
  if place = [] then some .directory else t[place]?

/-- Goes from a directory to one in it, to itself, or to the one above. -/
def enter (t : Tree) (place : Location) (piece : String) : Except Refusal Location :=
  if piece = "." then .ok place
  else if piece = ".." then .ok place.dropLast
  else if nameLimit < piece.utf8ByteSize then .error .nameTooLong
  else match t.node? (place ++ [piece]) with
    | none => .error .notFound
    | some (.file _) => .error .notDirectory
    | some .directory => .ok (place ++ [piece])

/-- Where a path ends: at a directory that is there whatever its name, or at a name in a
directory, with a mark if a slash follows the name. -/
inductive Target where
  | directory (place : Location)
  | entry (parent : Location) (name : String) (slash : Bool)

/-- Follows a path to its last piece. -/
def follow (t : Tree) (p : Path) : Except Refusal Target :=
  let pieces := (p.first :: p.rest).filter (· ≠ "")
  if p.text.toList.contains '\x00' then .error .nulInPath
  else if p.isEmpty then .error .notFound
  else if pathLimit ≤ p.text.utf8ByteSize then .error .nameTooLong
  else match pieces.getLast? with
    | none => .ok (.directory [])
    | some last =>
      (pieces.dropLast.foldlM t.enter []).bind fun parent =>
        if last = "." then .ok (.directory parent)
        else if last = ".." then .ok (.directory parent.dropLast)
        else if nameLimit < last.utf8ByteSize then .error .nameTooLong
        else .ok (.entry parent last (p.rest.getLast? == some ""))

/-- The nodes by the texts of their paths, in the order of the texts. -/
def listing (t : Tree) : List (String × Node) :=
  (t.toList.map fun (place, node) => ("/".intercalate place, node)).mergeSort fun a b =>
    decide (a.1 ≤ b.1)

end Tree

end ApiBindings.Files
