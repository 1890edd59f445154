import Highlighting.CommandLine.Path

namespace Highlighting

inductive ReadError where
  | notFound
  | isDirectory
  | notDirectory
  | invalidUtf8
  | other (reason : String)
  deriving DecidableEq, Repr

namespace ReadError

def message : ReadError → String
  | notFound => "No such file or directory (os error 2)"
  | isDirectory => "Is a directory (os error 21)"
  | notDirectory => "Not a directory (os error 20)"
  | invalidUtf8 => "stream did not contain valid UTF-8"
  | other reason => reason

end ReadError

def decodeText (bytes : ByteArray) : Except ReadError String :=
  match String.fromUTF8? bytes with
  | some text => .ok text
  | none => .error .invalidUtf8

inductive FileTree where
  | file (bytes : ByteArray)
  | directory (entries : List (String × FileTree))

namespace FileTree

def empty : FileTree :=
  directory []

def chain (leaf : FileTree) : List String → FileTree
  | [] => leaf
  | name :: names => directory [(name, chain leaf names)]

def insert (leaf : FileTree) : List String → FileTree → FileTree
  | [], tree => match leaf, tree with
    | directory [], directory entries => directory entries
    | leaf, _ => leaf
  | name :: names, directory entries =>
    match entries.lookup name with
    | some entry =>
      directory (entries.map fun e => if e.1 = name then (name, insert leaf names entry) else e)
    | none => directory (entries ++ [(name, chain leaf names)])
  | name :: names, file _ => chain leaf (name :: names)

def put (tree : FileTree) (path : String) (leaf : FileTree) : FileTree :=
  insert leaf (((Path.split path.toList).filter (· != [])).map String.ofList) tree

/-- Follows the parts of a path down from the first of `here`; the others are the directories
around it. A part above the outermost directory leads nowhere. -/
def walk : List FileTree → List (List Char) → Except ReadError FileTree
  | [], [] => .ok empty
  | here :: _, [] => .ok here
  | here, part :: parts =>
    match here with
    | [] => if part = ['.', '.'] ∨ part = ['.'] ∨ part = [] then walk [] parts else .error .notFound
    | file _ :: _ => .error .notDirectory
    | directory entries :: around =>
      if part = [] ∨ part = ['.'] then walk here parts
      else if part = ['.', '.'] then walk around parts
      else
        match entries.lookup (String.ofList part) with
        | some entry => walk (entry :: here) parts
        | none => .error .notFound

def find (tree : FileTree) (path : String) : Except ReadError FileTree :=
  match Path.split path.toList with
  | [] :: part :: parts => walk [] (part :: parts)
  | parts => walk [tree] parts

def read (tree : FileTree) (path : String) : Except ReadError String := do
  match ← tree.find path with
  | file bytes => decodeText bytes
  | directory _ => .error .isDirectory

def isFile (tree : FileTree) (path : String) : Bool :=
  match tree.find path with
  | .ok (file _) => true
  | _ => false

end FileTree

end Highlighting
