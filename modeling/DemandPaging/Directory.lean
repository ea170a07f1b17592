/-! # Directories of programs

A directory holds program texts by name. It is part of a system of directories: it lies in the one for
temporary files, under a name of its own that is not known. A path is walked name by name, from the
root if it starts with a slash and from the directory if not: an empty name and `.` stay where they
are, `..` goes upwards and at the root stays there, and a file has nothing below it. Of the system the
standard directories and the devices without content are known. What can be wrong with a path is told
in the words of the system, and the first name that leads nowhere decides. `climb_to_root`
says that two steps upwards, or more, lead from the directory to the root.
-/

namespace DemandPaging

/-- Why the file of a path cannot be read. -/
inductive FileError where
  | missing
  | denied
  | notDirectory
  | isDirectory
  | nameTooLong
  | linkLoop
deriving DecidableEq, Repr, Inhabited

namespace FileError

def all : List FileError := [.missing, .denied, .notDirectory, .isDirectory, .nameTooLong, .linkLoop]

/-- The number by which the system knows an error. -/
def code : FileError → Nat
  | .missing => 2
  | .denied => 13
  | .notDirectory => 20
  | .isDirectory => 21
  | .nameTooLong => 36
  | .linkLoop => 40

def text : FileError → String
  | .missing => "No such file or directory"
  | .denied => "Permission denied"
  | .notDirectory => "Not a directory"
  | .isDirectory => "Is a directory"
  | .nameTooLong => "File name too long"
  | .linkLoop => "Too many levels of symbolic links"

def ofCode? (code : Nat) : Option FileError := all.find? fun error => error.code == code

/-- How an error is reported: its text and its number. -/
def report (text : String) (code : Nat) : String := s!"{text} (os error {code})"

def message (error : FileError) : String := report error.text error.code

theorem ofCode?_code (error : FileError) : ofCode? error.code = some error := by
  cases error <;> decide

end FileError

structure Directory where
  /-- Texts by name. -/
  files : List (String × String)
deriving DecidableEq, Repr, Inhabited

namespace Directory

/-- Where a walk stands. -/
inductive Place where
  | inside
  /-- A directory of the system, by its names from the innermost to that at the root. -/
  | system (names : List String)
  | file (text : String)
deriving DecidableEq, Repr, Inhabited

/-- The directory of the system that holds the directory of programs. -/
def holder : Place := .system ["tmp"]

/-- The bytes that a name may have. -/
def nameLimit : Nat := 255

/-- The bytes that a path may have. -/
def pathLimit : Nat := 4095

/-- The directories at the root of the system, each with those it holds. -/
def systemDirectories : List (String × List String) :=
  [("bin", []), ("boot", []), ("dev", ["fd", "pts", "shm"]), ("etc", []), ("home", []), ("lib", []),
    ("lib64", []), ("media", []), ("mnt", []), ("opt", []), ("proc", ["self", "sys"]), ("root", []),
    ("run", []), ("sbin", []), ("srv", []), ("sys", []), ("tmp", []),
    ("usr", ["bin", "include", "lib", "local", "sbin", "share", "src"]),
    ("var", ["cache", "lib", "log", "mail", "opt", "spool", "tmp"])]

/-- The devices from which nothing can be read; nothing is written to the standard input. -/
def emptyDevices : List String := ["null", "stdin"]

def isSystemDirectory : List String → Bool
  | [] => true
  | [name] => (systemDirectories.lookup name).isSome
  | [name, outer] => (systemDirectories.lookup outer).any fun names => names.contains name
  | _ => false

/-- What the system has under some names, the innermost first. It knows the directory of programs as
that of the running process. -/
def systemPlace (names : List String) : Except FileError Place :=
  match names with
  | ["cwd", "self", "proc"] => .ok .inside
  | [name, "dev"] =>
    if name ∈ emptyDevices then .ok (.file "")
    else if isSystemDirectory names then .ok (.system names)
    else .error .missing
  | _ => if isSystemDirectory names then .ok (.system names) else .error .missing

/-- Goes from a directory one upwards. -/
def leave : Place → Place
  | .inside => holder
  | .system names => .system names.tail
  | .file text => .file text

/-- What a directory has under a name. -/
def child (directory : Directory) (place : Place) (name : String) : Except FileError Place :=
  match place with
  | .inside =>
    match directory.files.lookup name with
    | some text => .ok (.file text)
    | none => .error .missing
  | .system names => systemPlace (name :: names)
  | .file _ => .error .notDirectory

/-- Goes from a place to what has a name there. -/
def enter (directory : Directory) (place : Place) (name : String) : Except FileError Place :=
  match place with
  | .file _ => .error .notDirectory
  | _ =>
    if name = "" ∨ name = "." then .ok place
    else if name = ".." then .ok (leave place)
    else if nameLimit < name.utf8ByteSize then .error .nameTooLong
    else directory.child place name

/-- Where a path leads. -/
def find (directory : Directory) (path : String) : Except FileError Place :=
  if path = "" then .error .missing
  else if pathLimit < path.utf8ByteSize then .error .nameTooLong
  else
    (path.splitOn "/").foldlM directory.enter (if path.startsWith "/" then .system [] else .inside)

/-- The text of a file. -/
def read (directory : Directory) (path : String) : Except FileError String := do
  match ← directory.find path with
  | .file text => return text
  | _ => throw .isDirectory

theorem enter_up {directory : Directory} {place : Place} (walkable : ∀ text, place ≠ .file text) :
    directory.enter place ".." = .ok (leave place) := by
  cases place with
  | file text => exact (walkable text rfl).elim
  | inside => simp [enter]
  | system names => simp [enter]

theorem climb_at_root (directory : Directory) (steps : Nat) :
    (List.replicate steps "..").foldlM directory.enter (.system []) = .ok (.system []) := by
  induction steps with
  | zero => rfl
  | succ steps ih =>
    rw [List.replicate_succ, List.foldlM_cons, enter_up (by simp)]
    exact ih

theorem climb_to_root (directory : Directory) {steps : Nat} (enough : 2 ≤ steps) :
    (List.replicate steps "..").foldlM directory.enter .inside = .ok (.system []) := by
  obtain ⟨rest, rfl⟩ := Nat.exists_eq_add_of_le' enough
  rw [List.replicate_succ, List.foldlM_cons, enter_up (by simp), List.replicate_succ]
  show ((".." :: List.replicate rest "..").foldlM directory.enter holder) = _
  rw [List.foldlM_cons, enter_up (by simp [holder])]
  exact climb_at_root directory rest

end Directory

end DemandPaging
