import ControlPlane.Launch.Start
import ControlPlane.Text.Split

/-!
# Folders with known files

A folder is given by the files in it, named by the parts of their paths.  Within a
folder every path can be followed without asking anyone: `Folder.files` reads its files
and says which directories could be made.  What lies outside of it is out of reach.
-/

namespace ControlPlane.Launch

/-- The files of a folder, by the parts of their paths. -/
structure Folder where
  contents : List (List String × Bytes)

namespace Folder

/-- The greatest number of bytes of a part of a path. -/
def partLimit : Nat := 255

/-- The number of bytes that no path reaches. -/
def pathLimit : Nat := 4096

/-- The parts of a path, if it can lie in the folder. -/
def parts? (path : String) : Option (List String) :=
  if path.startsWith "/" || pathLimit ≤ path.utf8ByteSize || path.contains '\x00' then none
  else some ((Text.splitAll '/' path.toList).map String.ofList)

/-- The content of the file at a place. -/
def at? (folder : Folder) (place : List String) : Option Bytes :=
  (folder.contents.find? fun file => file.1 == place).map (·.2)

/-- Whether a place is a directory: the folder itself or one on the way to a file. -/
def hasDirectory (folder : Folder) (place : List String) : Bool :=
  place.isEmpty || folder.contents.any fun (file, _) => place.isPrefixOf file && place != file

/-- The place where the parts of a path lead from another place.  No path leads through a
file, and one that may not make directories leads through those that are there. -/
def follow? (folder : Folder) (making : Bool) (place : List String) :
    List String → Option (List String)
  | [] => some place
  | part :: path =>
    if (folder.at? place).isSome || !(making || folder.hasDirectory place) then none
    else if part = "" ∨ part = "." then folder.follow? making place path
    else if part = ".." then
      if place.isEmpty then none else folder.follow? making place.dropLast path
    else if partLimit < part.utf8ByteSize then none
    else folder.follow? making (place ++ [part]) path

/-- The content of the file at a path. -/
def content? (folder : Folder) (path : String) : Option Bytes := do
  folder.at? (← folder.follow? false [] (← parts? path))

/-- Whether a directory is there or could be made.  No directory needs to be made for the
empty path. -/
def canMake (folder : Folder) (path : String) : Bool :=
  match (parts? path).bind (folder.follow? true []) with
  | some place => (folder.at? place).isNone
  | none => false

/-- The files of a folder as they are at the start of a process. -/
def files (folder : Folder) : Files Id where
  content? := folder.content?
  makeDirectory := folder.canMake

end Folder

end ControlPlane.Launch
