import ApiBindings.Files.Tree

/-!
# System calls

What a program may ask of a file tree, the answer it gets, and the tree afterwards. Writing a file
is the one call that takes time: a program that is stopped during it leaves the file empty or with
the first bytes of its content.
-/

namespace ApiBindings.Files

/-- A system call. -/
inductive Call where
  | read (p : Path)
  | isDirectory (p : Path)
  | makeDirectory (p : Path)
  | write (p : Path) (content : ByteArray)
  | rename (source target : Path)
  | remove (p : Path)

namespace Call

/-- What a call answers. -/
@[reducible] def Answer : Call → Type
  | read _ => Except Refusal ByteArray
  | isDirectory _ => Bool
  | _ => Except Refusal Unit

/-- The bytes of the file that a path names. -/
def readFile (t : Tree) (p : Path) : Except Refusal ByteArray :=
  (t.follow p).bind fun
    | .directory _ => .error .isDirectory
    | .entry parent name slash =>
      match t.node? (parent ++ [name]) with
      | none => .error .notFound
      | some .directory => .error .isDirectory
      | some (.file content) => if slash then .error .notDirectory else .ok content

/-- Whether a path names a directory. -/
def namesDirectory (t : Tree) (p : Path) : Bool :=
  match t.follow p with
  | .error _ => false
  | .ok (.directory _) => true
  | .ok (.entry parent name _) => t.node? (parent ++ [name]) == some .directory

/-- The place of a directory that can be made, under a name that is not taken. -/
def newDirectory (t : Tree) (p : Path) : Except Refusal Location :=
  (t.follow p).bind fun
    | .directory _ => .error .alreadyExists
    | .entry parent name _ =>
      match t.node? (parent ++ [name]) with
      | none => .ok (parent ++ [name])
      | some _ => .error .alreadyExists

/-- The place of a file that can be written. -/
def writable (t : Tree) (p : Path) : Except Refusal Location :=
  (t.follow p).bind fun
    | .directory _ => .error .isDirectory
    | .entry parent name slash =>
      if slash || t.node? (parent ++ [name]) == some .directory then .error .isDirectory
      else .ok (parent ++ [name])

/-- The place and the content of a file that can be renamed, and its new place. Directories are
never renamed here. -/
def renamable (t : Tree) (source target : Path) :
    Except Refusal (Location × ByteArray × Location) :=
  (t.follow source).bind fun source => (t.follow target).bind fun target =>
    match source, target with
    | .directory _, _ | _, .directory _ => .error .busy
    | .entry parent name slash, .entry newParent newName newSlash =>
      match t.node? (parent ++ [name]) with
      | none => .error .notFound
      | some .directory => .error .isDirectory
      | some (.file content) =>
        if slash || newSlash then .error .notDirectory
        else if t.node? (newParent ++ [newName]) == some .directory then .error .isDirectory
        else .ok (parent ++ [name], content, newParent ++ [newName])

/-- The place of a file that can be removed. -/
def removable (t : Tree) (p : Path) : Except Refusal Location :=
  (t.follow p).bind fun
    | .directory _ => .error .isDirectory
    | .entry parent name slash =>
      match t.node? (parent ++ [name]) with
      | none => .error .notFound
      | some .directory => .error .isDirectory
      | some (.file _) => if slash then .error .notDirectory else .ok (parent ++ [name])

/-- Changes a tree at what was found, if it was. -/
def change {α : Type} (t : Tree) (found : Except Refusal α) (f : α → Tree) :
    Except Refusal Unit × Tree :=
  match found with
  | .ok a => (.ok (), f a)
  | .error r => (.error r, t)

/-- The answer of a call and the tree after it. -/
def perform (t : Tree) : (c : Call) → c.Answer × Tree
  | read p => (readFile t p, t)
  | isDirectory p => (namesDirectory t p, t)
  | makeDirectory p => change t (newDirectory t p) fun place => t.insert place .directory
  | write p content => change t (writable t p) fun place => t.insert place (.file content)
  | rename source target => change t (renamable t source target) fun (old, content, new) =>
    (t.erase old).insert new (.file content)
  | remove p => change t (removable t p) fun place => t.erase place

/-- The trees that a call can leave if it is stopped halfway. -/
def halfway (t : Tree) : Call → List Tree
  | write p content =>
    match writable t p with
    | .ok place => (List.range content.size).map fun n =>
      t.insert place (.file (content.extract 0 n))
    | .error _ => []
  | _ => []

end Call

end ApiBindings.Files
