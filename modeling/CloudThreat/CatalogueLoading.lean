import CloudThreat.Catalogue
import CloudThreat.FileTree
import CloudThreat.ThreatFile

namespace CloudThreat.Catalogue

def isThreatFile (name : String) : Bool :=
  match FileTree.extension? name with
  | some "yaml" => true
  | some "yml" => true
  | _ => false

/-- The threat files of a directory, in order of their names. -/
def threatFiles (tree : FileTree) (directory : List String) : List (String × List Nat) :=
  ((tree.filesIn directory).filter fun f => isThreatFile f.1).mergeSort fun a b => a.1 ≤ b.1

def threatsOfFile (bytes : List Nat) : List Threat :=
  ((Utf8.decode? bytes).bind ThreatFile.threats?).getD []

/-- The catalogue of a directory; nothing if there is no such directory. -/
def load? (tree : FileTree) (directory : List String) : Option Catalogue :=
  if tree.isDirectory directory then
    some (.ofThreats ((threatFiles tree directory).flatMap fun f => threatsOfFile f.2))
  else none

end CloudThreat.Catalogue
