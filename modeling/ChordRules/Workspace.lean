import ChordRules.Report

/-! # Files by path

A workspace is a tree of directories and files with one directory to work in. A path is walked
name by name, from the root if it begins with a slash and from the working directory otherwise.
All that is walked through must be a directory, also for an empty name or a dot. -/
namespace ChordRules

/-- The names that lead from the root to a place. -/
abbrev Place := List String

structure Workspace where
  files : List (Place × List UInt8)
  /-- Directories, whether or not anything is in them. -/
  directories : List Place
  working : Place

namespace Workspace

/-- A directory lies on the way to every place that is known. -/
def isDirectory (w : Workspace) (p : Place) : Bool :=
  p.isPrefixOf w.working || w.directories.any p.isPrefixOf ||
    w.files.any fun f => p.length < f.1.length && p.isPrefixOf f.1

def file? (w : Workspace) (p : Place) : Option (List UInt8) := w.files.lookup p

/-- The longest path, in bytes, and the longest name. -/
def pathLimit : Nat := 4095
def nameLimit : Nat := 255

/-- One name further. -/
def enter (w : Workspace) (p : Place) (name : String) : Except IoFault Place :=
  if !w.isDirectory p then .error .notADirectory
  else if name = "" ∨ name = "." then .ok p
  else if name = ".." then .ok p.dropLast
  else if nameLimit < name.utf8ByteSize then .error .nameTooLong
  else if w.isDirectory (p ++ [name]) || (w.file? (p ++ [name])).isSome then .ok (p ++ [name])
  else .error .notFound

/-- The names between the slashes of a path. -/
def namesOf (path : String) : List String :=
  (splitAtSlashes path.toList).map String.ofList
where
  splitAtSlashes : List Char → List (List Char)
    | [] => [[]]
    | c :: cs =>
      match splitAtSlashes cs with
      | [] => []
      | name :: rest => if c = '/' then [] :: name :: rest else (c :: name) :: rest

/-- The place a path leads to. -/
def find (w : Workspace) (path : String) : Except IoFault Place :=
  if path.toList.contains '\x00' then .error .nulInPath
  else if path = "" then .error .notFound
  else if pathLimit < path.utf8ByteSize then .error .nameTooLong
  else (namesOf path).foldlM w.enter (if path.toList.head? = some '/' then [] else w.working)

/-- The bytes of the file a path leads to. -/
def read (w : Workspace) (path : String) : Except IoFault (List UInt8) := do
  match w.file? (← w.find path) with
  | some bytes => return bytes
  | none => .error .isADirectory

end Workspace
end ChordRules
