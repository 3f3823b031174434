import PlatformAudit.Files.Channel
import PlatformAudit.Files.Path

/-!
# File trees

What paths lead to.  A file tree says what happens when a file is opened to be read and written, and
when a file is created.  A place in the tree is given by the names that lead to it from the root.
-/

namespace PlatformAudit

/-- What is at a place. -/
inductive FileNode where
  | channel (channel : Channel)
  | console
  | directory
  /-- A directory in which nothing can be created. -/
  | closedDirectory
deriving DecidableEq, Repr

def FileNode.isDirectory : FileNode → Bool
  | .directory | .closedDirectory => true
  | .channel _ | .console => false

/-- The channel of an open file, unless it is a directory.  The standard output is a stream. -/
def FileNode.channel? : FileNode → Option Channel
  | .channel opened => some opened
  | .console => some .stream
  | .directory | .closedDirectory => none

/-- What is at all places where something is, except the root, which is always there. -/
structure FileTree where
  nodes : List (List String × FileNode) := []
  /-- The place of the working directory. -/
  working : List String := []
deriving DecidableEq, Repr

/-- Where a path ends. -/
inductive PathEnd where
  | directory
  /-- At a name in a directory.  A closed name can only belong to a directory. -/
  | name (place : List String) (name : String) (closed : Bool)
deriving DecidableEq, Repr

namespace FileTree

/-- A tree with an empty working directory and the directories and devices of every system. -/
def standard : FileTree where
  nodes :=
    [ (["dev"], .directory), (["dev", "null"], .channel .null), (["dev", "zero"], .channel .zero)
    , (["dev", "full"], .channel .full), (["dev", "random"], .channel .null)
    , (["dev", "urandom"], .channel .null), (["dev", "stdin"], .channel .null)
    , (["dev", "stdout"], .console), (["dev", "stderr"], .channel .stream)
    , (["dev", "fd"], .closedDirectory), (["dev", "fd", "0"], .channel .null)
    , (["dev", "fd", "1"], .console), (["dev", "fd", "2"], .channel .stream)
    , (["dev", "shm"], .directory), (["dev", "pts"], .closedDirectory), (["etc"], .directory)
    , (["home"], .directory), (["proc"], .closedDirectory), (["proc", "self"], .closedDirectory)
    , (["root"], .directory), (["root", "audit"], .directory), (["run"], .directory)
    , (["sys"], .closedDirectory), (["tmp"], .directory), (["usr"], .directory)
    , (["usr", "bin"], .directory), (["usr", "lib"], .directory), (["var"], .directory)
    , (["var", "log"], .directory), (["var", "tmp"], .directory) ]
  working := ["root", "audit"]

def withFile (tree : FileTree) (place : List String) (bytes : List UInt8) : FileTree :=
  { tree with nodes := (place, .channel (.file bytes)) :: tree.nodes }

def node? (tree : FileTree) (place : List String) : Option FileNode :=
  if place.isEmpty then some .directory else (tree.nodes.find? (·.1 = place)).map (·.2)

def entry? (tree : FileTree) (place : List String) (name : String) :
    Except Fault (Option FileNode) :=
  if Path.maxNameBytes < name.utf8ByteSize then .error .nameTooLong
  else .ok (tree.node? (place ++ [name]))

/-- Goes from a directory through directories of the given names.  What is above the root is the
root. -/
def descend (tree : FileTree) : List String → List String → Except Fault (List String)
  | place, [] => .ok place
  | place, name :: rest =>
      if name = Path.here then tree.descend place rest
      else if name = Path.above then tree.descend place.dropLast rest
      else
        match tree.entry? place name with
        | .error fault => .error fault
        | .ok none => .error .notFound
        | .ok (some node) =>
            if node.isDirectory then tree.descend (place ++ [name]) rest
            else .error .notADirectory

def follow (tree : FileTree) (text : String) : Except Fault PathEnd := do
  let path ← Path.read text
  let start := if path.fromRoot then [] else tree.working
  let place ← tree.descend start path.names.dropLast
  match path.names.getLast? with
  | none => return .directory
  | some last =>
      if last = Path.here ∨ last = Path.above then return .directory
      else return .name place last path.closed

def openChannel (tree : FileTree) (text : String) : Except Fault Channel := do
  match ← tree.follow text with
  | .directory => throw .isDirectory
  | .name place name closed =>
      match ← tree.entry? place name with
      | none => throw .notFound
      | some node =>
          match node.channel? with
          | none => throw .isDirectory
          | some channel => if closed then throw .notADirectory else return channel

/-- Creates a file, or replaces it if it is there, and yields what was there or an empty file.  A
closed name counts as the name of a directory whether it is there or not. -/
def create (tree : FileTree) (text : String) : Except Fault FileNode := do
  match ← tree.follow text with
  | .directory => throw .isDirectory
  | .name place name closed =>
      if closed then throw .isDirectory
      else
        match ← tree.entry? place name with
        | some node => if node.isDirectory then throw .isDirectory else return node
        | none =>
            if tree.node? place = some .closedDirectory then throw .notFound
            else return .channel (.file [])

end FileTree

end PlatformAudit
