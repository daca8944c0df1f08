import TokenListing.Stream.Input

/-! # Files

What a path leads to: something that can be opened, something that cannot, or nothing. A directory
can be opened, but the first read of it fails. In a tree of directories a path is followed name by
name; every name but the last must be that of a directory.
-/
namespace TokenListing

inductive Entry where
  | readable (input : Input)
  /-- Something is there, but it cannot be opened. -/
  | locked (failure : Failure)
  /-- Nothing is there. -/
  | missing (failure : Failure)
  deriving DecidableEq, Repr

namespace Entry

def noSuchFile : Failure := ⟨.notFound, "No such file or directory (os error 2)"⟩

def notADirectory : Failure := ⟨.notADirectory, "Not a directory (os error 20)"⟩

def isADirectory : Failure := ⟨.isADirectory, "Is a directory (os error 21)"⟩

def file (bytes : List UInt8) : Entry := readable (.ofBytes bytes)

def directory : Entry := readable { items := [.failure isADirectory] }

def isPresent : Entry → Bool
  | missing _ => false
  | _ => true

def input : Entry → Except Failure Input
  | readable input => .ok input
  | locked failure | missing failure => .error failure

def text (entry : Entry) : Except Failure String := do
  let input ← entry.input
  let bytes ← input.contents
  match String.fromUTF8? ⟨bytes.toArray⟩ with
  | some text => return text
  | none => throw .notUtf8

end Entry

inductive FileTree where
  | file (bytes : List UInt8)
  | directory (children : List (String × FileTree))
  deriving Inhabited

namespace FileTree

def empty : FileTree := directory []

def names (path : String) : List String :=
  (path.splitOn "/").filter fun name => name != "" && name != "."

def withChild (name : String) (child : FileTree) :
    List (String × FileTree) → List (String × FileTree)
  | [] => [(name, child)]
  | entry :: rest =>
    if entry.1 = name then (name, child) :: rest else entry :: withChild name child rest

def update (change : Option FileTree → FileTree) : List String → Option FileTree → FileTree
  | [], tree => change tree
  | name :: path, some (directory children) =>
    directory (withChild name (update change path (children.lookup name)) children)
  | name :: path, _ => directory [(name, update change path none)]

def addFile (path : String) (bytes : List UInt8) (tree : FileTree) : FileTree :=
  update (fun _ => file bytes) (names path) (some tree)

def addDirectory (path : String) (tree : FileTree) : FileTree :=
  update (fun old => old.getD empty) (names path) (some tree)

/-- Follows names through the tree. `place` is where the way has led so far, and `above` holds
the directories around it, the nearest first; around the root there is an empty one. -/
def follow : List String → FileTree → List FileTree → Entry
  | [], file bytes, _ => .file bytes
  | [], directory _, _ => .directory
  | _ :: _, file _, _ => .missing Entry.notADirectory
  | name :: path, directory children, above =>
    if name = "" ∨ name = "." then follow path (directory children) above
    else if name = ".." then follow path (above.headD empty) above.tail
    else
      match children.lookup name with
      | some child => follow path child (directory children :: above)
      | none => .missing Entry.noSuchFile

/-- What a path leads to. A path that begins at the root of all files leads out of the tree. -/
def entry (tree : FileTree) (path : String) : Entry :=
  if path = "" then .missing Entry.noSuchFile
  else if path.startsWith "/" then follow (path.splitOn "/") empty []
  else follow (path.splitOn "/") tree []

end FileTree
end TokenListing
