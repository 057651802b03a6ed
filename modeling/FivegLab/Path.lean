import FivegLab.Text
import Mathlib.Data.List.Sort
import Mathlib.Data.String.Basic

/-!
# Paths

Pure POSIX paths, as `pathlib` takes them apart and joins them.
-/

namespace FivegLab

structure Path where
  absolute : Bool
  parts : List String
  deriving DecidableEq, Repr

namespace Path

/-- `Path(text)`: empty and `.` components are dropped. -/
def ofText (text : String) : Path where
  absolute := Text.StartsWith text "/"
  parts := (Text.splitMax '/' text.length text).filter fun part => part ≠ "" ∧ part ≠ "."

/-- `directory / text`: an absolute text replaces the directory. -/
instance : HDiv Path String Path where
  hDiv directory text :=
    let right := ofText text
    if right.absolute then right
    else { directory with parts := directory.parts ++ right.parts }

/-- `str(path)`. -/
def text (path : Path) : String :=
  match path.absolute, path.parts with
  | true, parts => "/" ++ "/".intercalate parts
  | false, [] => "."
  | false, parts => "/".intercalate parts

/-- `path.parent`. -/
def parent (path : Path) : Path := { path with parts := path.parts.dropLast }

/-- `sorted(paths)`, for paths of one directory. -/
def sort (paths : List Path) : List Path :=
  paths.insertionSort fun first second => first.text ≤ second.text

end Path

end FivegLab
