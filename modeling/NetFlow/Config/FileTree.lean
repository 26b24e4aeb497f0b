/-! Files in a tree of directories, and what comes of reading one of their paths. -/
namespace NetFlow

inductive FileTree where
  | file (contents : ByteArray)
  | directory (entries : List (String × FileTree))

inductive PathFault where
  | notFound
  | notDirectory
  | isDirectory
  | nameTooLong
  | nulInPath
  deriving DecidableEq, Repr

def PathFault.message : PathFault → String
  | .notFound => "No such file or directory (os error 2)"
  | .notDirectory => "Not a directory (os error 20)"
  | .isDirectory => "Is a directory (os error 21)"
  | .nameTooLong => "File name too long (os error 36)"
  | .nulInPath => "file name contained an unexpected NUL byte"

namespace FileTree

def maxName : Nat := 255

def maxPath : Nat := 4095

/-- Follows names from directory to directory; `above` are the directories passed. A
single dot stays where it is, two dots go up, and an empty name asks for a directory. -/
def follow (here : FileTree) (above : List FileTree) : List String → Except PathFault FileTree
  | [] => .ok here
  | name :: names =>
    match here with
    | .file _ => .error .notDirectory
    | .directory entries =>
      if name == "" || name == "." then follow here above names
      else if name == ".." then
        match above with
        | [] => follow here [] names
        | up :: above => follow up above names
      else if maxName < name.utf8ByteSize then .error .nameTooLong
      else
        match entries.lookup name with
        | some next => follow next (here :: above) names
        | none => .error .notFound

end FileTree

/-- A tree of files and the names that lead to the working directory. -/
structure FileSystem where
  root : FileTree
  working : List String

namespace FileSystem

/-- The names on the way from the root. An absolute path has an empty name in front. -/
def names (s : FileSystem) (path : String) : List String :=
  match path.splitOn "/" with
  | "" :: names => names
  | names => s.working ++ names

def contents (s : FileSystem) (path : String) : Except PathFault ByteArray :=
  if path.contains '\x00' then .error .nulInPath
  else if path.isEmpty then .error .notFound
  else if FileTree.maxPath < path.utf8ByteSize then .error .nameTooLong
  else
    match s.root.follow [] (s.names path) with
    | .ok (.file bytes) => .ok bytes
    | .ok (.directory _) => .error .isDirectory
    | .error e => .error e

end FileSystem
end NetFlow
