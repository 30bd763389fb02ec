/-
  Namebook.Files.Tree
  ───────────────────
  **A tree of files.**

  The tree knows which paths are directories and which are files, with the lines of each file.
  Making a directory makes all missing directories on the way, and nothing that is already there
  is changed.
-/
import Namebook.Files.Path

namespace Namebook

/-! ## §1. Trees. -/

/-- Why the system refuses to make a directory. -/
inductive FileError where
  | notFound
  | occupied
  | notDirectory
  | nameTooLong
  /-- The path holds a zero byte. -/
  | zeroByte
  deriving DecidableEq

/-- The text of an error. -/
def FileError.message : FileError → String
  | notFound => "No such file or directory (os error 2)"
  | occupied => "File exists (os error 17)"
  | notDirectory => "Not a directory (os error 20)"
  | nameTooLong => "File name too long (os error 36)"
  | zeroByte => "file name contained an unexpected NUL byte"

/-- What stands at a path. -/
inductive FileNode where
  | directory
  /-- A directory in which nothing can be made. -/
  | sealedDirectory
  | file (lines : List String)
  deriving DecidableEq

/-- Whether a node is a directory. -/
def FileNode.isDirectory : FileNode → Bool
  | directory => true
  | sealedDirectory => true
  | file _ => false

/-- Files and directories by the names on the way to them from the root, the newest first. -/
structure FileTree where
  nodes : List (List String × FileNode)
  deriving DecidableEq

namespace FileTree

/-- The tree with the root alone. -/
def root : FileTree := { nodes := [] }

/-- What stands at a place. -/
def node? (t : FileTree) (place : List String) : Option FileNode :=
  if place = [] then some .directory else t.nodes.lookup place

/-- Puts a node at a place. -/
def put (t : FileTree) (place : List String) (n : FileNode) : FileTree :=
  { nodes := (place, n) :: t.nodes }

/-! ## §2. Following a path. -/

/-- The greatest length of a name in bytes. -/
def nameLimit : Nat := 255

/-- The greatest length of a path in bytes. -/
def pathLimit : Nat := 4095

/-- The place that the rest of a path leads to from a place; every place that is left must be a
directory. -/
def follow (t : FileTree) : List String → List String → Except FileError (List String)
  | place, [] => .ok place
  | place, step :: rest =>
    match t.node? place with
    | none => .error .notFound
    | some (.file _) => .error .notDirectory
    | some _ =>
      -- what `.` and `..` mean depends on the place that is reached, which is a directory
      if step = Path.here then follow t place rest
      else if step = Path.above then follow t place.dropLast rest
      else if step.utf8ByteSize > nameLimit then .error .nameTooLong
      else if (t.node? (place ++ [step])).isSome then follow t (place ++ [step]) rest
      else .error .notFound

/-- What stands at the end of a path. -/
def find? (t : FileTree) (steps : List String) : Option FileNode :=
  match follow t [] steps with
  | .ok place => t.node? place
  | .error _ => none

/-- Whether a path leads to a directory. -/
def leadsToDirectory (t : FileTree) (steps : List String) : Bool :=
  match t.find? steps with
  | some n => n.isDirectory
  | none => false

/-! ## §3. Making directories. -/

/-- Makes one directory. -/
def makeOne (t : FileTree) (steps : List String) : Except FileError FileTree :=
  match steps.getLast? with
  | none => .error .occupied
  | some name =>
    match follow t [] steps.dropLast with
    | .error e => .error e
    | .ok place =>
      match t.node? place with
      | some .directory =>
        if name = Path.here ∨ name = Path.above then .error .occupied
        else if name.utf8ByteSize > nameLimit then .error .nameTooLong
        else if (t.node? (place ++ [name])).isSome then .error .occupied
        else .ok (t.put (place ++ [name]) .directory)
      | some .sealedDirectory =>
        -- nothing can be made in here, and the refusal reads as if the directory were missing
        if (t.node? (place ++ [name])).isSome then .error .occupied else .error .notFound
      | some (.file _) => .error .notDirectory
      | none => .error .notFound

/-- Makes a directory; if something on the way is missing, `makeAbove` is tried first.  A directory
that is there already is as good as a new one. -/
def ensure (makeAbove : FileTree → Except FileError Unit × FileTree) (t : FileTree)
    (steps : List String) : Except FileError Unit × FileTree :=
  match t.makeOne steps with
  | .ok t' => (.ok (), t')
  | .error .notFound =>
    match makeAbove t with
    | (.error e, t') => (.error e, t')
    | (.ok (), t') =>
      match t'.makeOne steps with
      | .ok t'' => (.ok (), t'')
      -- what was made above stays, even if this directory cannot be made
      | .error e => (if t'.leadsToDirectory steps then .ok () else .error e, t')
  | .error e => (if t.leadsToDirectory steps then .ok () else .error e, t)

/-- Makes the directory whose components are given from the last to the first. -/
def makeAll : List String → FileTree → Except FileError Unit × FileTree
  | [], t => (.ok (), t)
  | name :: above, t => ensure (makeAll above) t (name :: above).reverse

/-- Makes the directory of a path and all that is missing on the way. -/
def makeDirectory (t : FileTree) (path : String) : Except FileError Unit × FileTree :=
  if path.toList.contains '\x00' then (.error .zeroByte, t)
  else if path.utf8ByteSize > pathLimit then (.error .nameTooLong, t)
  else ensure (makeAll (Path.components path).reverse.tail) t (Path.steps path)

/-- Whether a path leads to a directory. -/
def isDirectory (t : FileTree) (path : String) : Bool :=
  t.leadsToDirectory (Path.steps path)

/-! ## §4. Files. -/

/-- Makes an empty file, or empties the one that is there. -/
def writeEmpty (t : FileTree) (path : String) : FileTree :=
  let steps := Path.steps path
  match steps.getLast?, follow t [] steps.dropLast with
  | some name, .ok place => t.put (place ++ [name]) (.file [])
  | _, _ => t

/-- The lines of a file in a directory. -/
def lines? (t : FileTree) (directory name : String) : Option (List String) :=
  match t.find? (Path.steps directory ++ [name]) with
  | some (.file lines) => some lines
  | _ => none

/-- Adds lines to a file in a directory; the file appears with its first line. -/
def appendLines (t : FileTree) (directory name : String) (new : List String) : FileTree :=
  match new, follow t [] (Path.steps directory) with
  | _ :: _, .ok place =>
    match t.node? (place ++ [name]) with
    | some (.file old) => t.put (place ++ [name]) (.file (old ++ new))
    | some _ => t
    | none => t.put (place ++ [name]) (.file new)
  | _, _ => t

/-- The place of a file that is to be read and written: it is there, or it can be made.  Here `..`
takes back the step before it. -/
def writablePlace? (t : FileTree) (path : String) : Option (List String) :=
  let place := Path.normal path
  match t.node? place, t.node? place.dropLast with
  | some (.file _), _ => some place
  | none, some .directory => some place
  | _, _ => none

end FileTree

end Namebook
