import CloudThreat.Cut
import CloudThreat.Utf8

namespace CloudThreat

/-- What stands at a path. The bytes of what is neither a file nor a directory, and of a file that
may not be read, cannot be had. -/
inductive FileEntry where
  | file (bytes : List Nat)
  | directory
  | unreadable
deriving Repr

/-- The names on a path, and what stands there. -/
abbrev FileTree := List (List String × FileEntry)

namespace FileTree

/-- The names on a path; empty ones and single points lead nowhere. -/
def pathOf (s : String) : List String :=
  ((cut '/' s.toList).map String.ofList).filter fun n => !n.isEmpty && n != "."

/-- Put an entry at a path, in the place of what was there. -/
def put (tree : FileTree) (path : List String) (entry : FileEntry) : FileTree :=
  (tree.filter fun e => e.1 != path) ++ [(path, entry)]

def at? (tree : FileTree) (path : List String) : Option FileEntry :=
  tree.lookup path

/-- The root is a directory, and so is whatever has something below it. -/
def isDirectory (tree : FileTree) (path : List String) : Bool :=
  match tree.at? path with
  | some (.file _) => false
  | some .directory => true
  | some .unreadable => false
  | none => path.isEmpty || tree.any fun e => path.isPrefixOf e.1

/-- The names and contents of the files directly in a directory. -/
def filesIn (tree : FileTree) (path : List String) : List (String × List Nat) :=
  tree.filterMap fun e =>
    match e with
    | (p, .file bytes) =>
      match p.getLast? with
      | some name => if p.dropLast = path then some (name, bytes) else none
      | none => none
    | _ => none

/-- What follows the last point of a name, if something stands before it. -/
def extension? (name : String) : Option String :=
  let parts := cut '.' name.toList
  match parts.dropLast with
  | [] => none
  | [[]] => none
  | _ => parts.getLast?.map String.ofList

end FileTree

end CloudThreat
