import WorkerPool.Settings.Error

/-!
Files by path. A path leads from directory to directory down to a file, which holds bytes that
should be text.
-/

namespace WorkerPool

inductive FileNode
  | file (bytes : ByteArray)
  | directory (entries : List (String × FileNode))

namespace FileNode

/-- Bytes of the longest name in a path. -/
def nameLimit : Nat := 255

/-- Bytes of the longest path, counting the mark at its end. -/
def pathLimit : Nat := 4096

/-- The node at the end of a path, given by its names, that starts at a node below others. An
empty name or a point stays where it is, two points go up, but only in a directory. -/
def walk (above : List FileNode) (node : FileNode) : List String → Except FileError FileNode
  | [] => .ok node
  | name :: rest =>
    match node with
    | .file _ => .error .notADirectory
    | .directory entries =>
      if name = "" ∨ name = "." then walk above node rest
      else if name = ".." then walk above.tail (above.headD node) rest
      else if nameLimit < name.utf8ByteSize then .error .nameTooLong
      else match entries.lookup name with
        | some child => walk (node :: above) child rest
        | none => .error .notFound

def read (root : FileNode) (path : String) : Except FileError ByteArray := do
  if path.toList.contains '\x00' then throw .invalidPath
  if path.isEmpty then throw .notFound
  if pathLimit ≤ path.utf8ByteSize then throw .nameTooLong
  match ← walk [] root (path.splitOn "/") with
  | .file bytes => return bytes
  | .directory _ => throw .isADirectory

end FileNode

def textOfBytes (bytes : ByteArray) : Except FileError String :=
  match String.fromUTF8? bytes with
  | some text => .ok text
  | none => .error .notText

end WorkerPool
