/-
  Namebook.Files.Path
  ───────────────────
  **Absolute paths and their components.**

  A path is read as the names between its slashes.  Paths count as the same when these names agree:
  repeated and trailing slashes and `.` add none, while `..` counts as a name, because what it
  stands for depends on the files.  `normal` is the coarser reading in which `..` takes back the
  name before it.
-/
import Namebook.Text.Utf8

namespace Namebook

namespace Path

/-! ## §1. Names between slashes. -/

/-- The pieces between the slashes of a path, empty ones included. -/
def pieces : List Char → List (List Char)
  | [] => [[]]
  | c :: cs =>
    if c = '/' then [] :: pieces cs
    else match pieces cs with
      | [] => [[c]]
      | p :: ps => (c :: p) :: ps

/-- The names on the way that a path describes, `.` and `..` included. -/
def steps (path : String) : List String :=
  ((pieces path.toList).filter (· ≠ [])).map String.ofList

/-- The component that stays in place. -/
def here : String := "."

/-- The component that leads to the directory above. -/
def above : String := ".."

/-- The components of a path. -/
def components (path : String) : List String :=
  (steps path).filter (· ≠ here)

/-- Whether a path starts at the root. -/
def isAbsolute (path : String) : Bool :=
  path.toList.head? == some '/'

/-- Goes one step along a path; the root is above itself. -/
def walk (place : List String) (step : String) : List String :=
  if step = above then place.dropLast else place ++ [step]

/-- The components of a path where `..` takes back the one before it. -/
def normal (path : String) : List String :=
  (components path).foldl walk []

example : components "/var//log/./x/../y/." = ["var", "log", "x", "..", "y"] ∧
    normal "/var//log/./x/../y/." = ["var", "log", "y"] := by decide

end Path

/-! ## §2. Configured paths. -/

/-- A path as the system knows it: bytes, which need not be a text. -/
inductive RawPath where
  | text (path : String)
  /-- A path that is no text, and how it is shown. -/
  | undecodable (shown : String)
  deriving DecidableEq

namespace RawPath

/-- The path of the given bytes. -/
def ofBytes (bytes : List Nat) : RawPath :=
  match Text.Utf8.decode? bytes with
  | some path => text path
  | none => undecodable (Text.Utf8.decodeLossy bytes)

end RawPath

end Namebook
