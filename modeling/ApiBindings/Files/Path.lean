import ApiBindings.Text.Blank

/-!
# Paths

A path as text, cut at its slashes. The file that a path names and the directory of that file do
not depend on doubled or trailing slashes, nor on `.` segments other than one at the front.
-/

namespace ApiBindings.Files

/-- The pieces of a path between its slashes. An empty first piece that others follow makes the
path absolute. -/
structure Path where
  first : String
  rest : List String
  deriving DecidableEq, Repr

namespace Path

/-- The path of a text. -/
def ofText (text : String) : Path :=
  let (first, rest) := Text.splitAt '/' text.toList
  ⟨String.ofList first, rest.map String.ofList⟩

/-- The text of a path. -/
def text (p : Path) : String := "/".intercalate (p.first :: p.rest)

/-- The path with no text. -/
def empty : Path := ⟨"", []⟩

/-- The root directory. -/
def root : Path := ⟨"", [""]⟩

/-- The directory in which relative paths start. -/
def here : Path := ⟨".", []⟩

/-- Whether a path has no text. -/
def isEmpty (p : Path) : Bool := p.first.isEmpty && p.rest.isEmpty

/-- Whether a piece behind the first one leads nowhere. -/
def isTrivial (piece : String) : Bool := piece == "" || piece == "."

/-- The pieces behind the first one, up to the last that leads somewhere. -/
def steps (p : Path) : List String := Text.dropTail isTrivial p.rest

/-- The name of the file that a path ends in. -/
def fileName? (p : Path) : Option String :=
  match p.steps.getLast? with
  | some piece => if piece = ".." then none else some piece
  | none => if p.first = "" ∨ p.first = "." ∨ p.first = ".." then none else some p.first

/-- The first piece with some of those behind it. -/
def restrict (p : Path) (rest : List String) : Path :=
  let kept := Text.dropTail isTrivial rest
  if p.first = "" ∧ kept = [] then root else ⟨p.first, kept⟩

/-- The path without its last piece. The root and the path with no text have nothing above
them. -/
def parent? (p : Path) : Option Path :=
  if p.steps = [] then (if p.first = "" then none else some empty)
  else some (p.restrict p.steps.dropLast)

/-- The directory that holds the file a path ends in. -/
def directory (p : Path) : Path :=
  match p.parent? with
  | some parent => if parent.isEmpty then here else parent
  | none => here

/-- The path of a file in a directory. -/
def join (p : Path) (name : String) : Path :=
  if p.isEmpty then ⟨name, []⟩
  else if p.rest.getLast? = some "" then ⟨p.first, p.rest.dropLast ++ [name]⟩
  else ⟨p.first, p.rest ++ [name]⟩

/-- How far a path is from the path with no text. -/
def depth (p : Path) : Nat := p.steps.length + if p.isEmpty then 0 else 1

private theorem depth_le (p : Path) : p.depth ≤ p.steps.length + 1 := by
  unfold depth
  split <;> omega

private theorem depth_of_not_isEmpty {p : Path} (h : p.isEmpty = false) :
    p.depth = p.steps.length + 1 := by
  simp [depth, h]

private theorem length_steps_restrict (p : Path) (rest : List String) :
    (p.restrict rest).steps.length ≤ rest.length := by
  have hlen := Text.length_dropTail isTrivial rest
  unfold restrict
  simp only
  split
  · simp [root, steps, Text.dropTail, isTrivial]
  · exact Nat.le_trans (Text.length_dropTail isTrivial _) hlen

/-- What is above a path is nearer to the path with no text. -/
theorem depth_lt_of_parent? {p q : Path} (h : p.parent? = some q) : q.depth < p.depth := by
  unfold parent? at h
  split at h
  next hs =>
    split at h
    · cases h
    next hf =>
      cases h
      have hp : p.isEmpty = false := by simp [isEmpty, hf]
      rw [depth_of_not_isEmpty hp]
      exact Nat.succ_pos _
  next hs =>
    cases h
    have hpos : 0 < p.steps.length := List.length_pos_iff.mpr hs
    have hp : p.isEmpty = false := by
      cases hr : p.rest with
      | nil => simp [steps, hr, Text.dropTail] at hs
      | cons => simp [isEmpty, hr]
    have hq := length_steps_restrict p p.steps.dropLast
    rw [List.length_dropLast] at hq
    have hd := depth_le (p.restrict p.steps.dropLast)
    rw [depth_of_not_isEmpty hp]
    omega

end Path

end ApiBindings.Files
