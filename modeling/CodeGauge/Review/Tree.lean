import CodeGauge.Text.Case

/-!
This module contains trees of files, paths in them, and the source files below a directory.
-/

namespace CodeGauge


/--
The names that lead to a file, the outermost first.
-/
abbrev Path := List String

namespace Path

/--
The names in a written path. A single dot is no name.
-/
def parts (s : String) : Path :=
  ((s.toList.splitOn '/').map String.ofList).filter fun part => part != "" && part != "."

/--
A path as it is written. That of the directory itself is a single dot.
-/
def text : Path → String
  | [] => "."
  | path => "/".intercalate path

/--
A path where each pair of dots takes away the name before it.
-/
def resolve (path : Path) : Path :=
  (path.foldl (fun names part => if part == ".." then names.drop 1 else part :: names) []).reverse

end Path

/--
A file with its bytes, or a directory with its entries. A file that cannot be read has no bytes, and
a directory that can neither be listed nor entered is a closed one.
-/
inductive Tree where
  | file (bytes : Option (List UInt8))
  | dir (entries : List (String × Tree))
  | closed
  deriving Inhabited

namespace Tree

def empty : Tree :=
  .dir []

/--
A tree that holds nothing but another tree at a path.
-/
def nested (tree : Tree) : Path → Tree
  | [] => tree
  | name :: path => .dir [(name, nested tree path)]

mutual

/--
A tree with another tree put at a path. Directories on the way are made, and one that is there
already is kept.
-/
def put (tree : Tree) (path : Path) (new : Tree) : Tree :=
  match tree, path with
  | .file _, [] => new
  | .file bytes, _ :: _ => .file bytes
  | .closed, [] => new
  | .closed, _ :: _ => .closed
  | .dir entries, [] =>
    match new with
    | .dir [] => .dir entries
    | new => new
  | .dir entries, name :: path => .dir (putEntry entries name path new)

def putEntry (entries : List (String × Tree)) (name : String) (path : Path) (new : Tree) :
    List (String × Tree) :=
  match entries with
  | [] => [(name, nested new path)]
  | (n, tree) :: entries =>
    if n == name then
      (n, put tree path new) :: entries
    else
      (n, tree) :: putEntry entries name path new

end

/--
What is found at a path from a directory, where `above` holds the directories that contain it, the
innermost first.
-/
def follow (above : List Tree) (tree : Tree) : Path → Option Tree
  | [] => some tree
  | ".." :: path =>
    match tree, above with
    | .dir _, up :: above => follow above up path
    | _, _ => none
  | name :: path =>
    match tree with
    | .dir entries =>
      match entries.lookup name with
      | some below => follow (tree :: above) below path
      | none => none
    | _ => none

def at? (tree : Tree) (path : Path) : Option Tree :=
  tree.follow [] path

/--
The ending of a name from its last dot on. A name has none if that dot is its first or its last
character.
-/
def suffix (name : String) : List Char :=
  let cs := name.toList.reverse
  let ending := cs.takeWhile (· != '.')
  match cs.dropWhile (· != '.') with
  | dot :: _ :: _ => if ending.isEmpty then [] else dot :: ending.reverse
  | _ => []

/--
The endings of source files.
-/
def sourceSuffixes : List String := [".js", ".jsx", ".ts", ".tsx", ".py"]

/--
Whether a name is that of a source file. Letter case does not count.
-/
def isSource (name : String) : Bool :=
  sourceSuffixes.contains (Text.lower (.ofList (suffix name)))

/--
The names of directories that hold no sources of one's own.
-/
def skippedNames : List String :=
  ["node_modules", ".next", "dist", "build", ".git", "__pycache__", ".venv"]

/--
Lists that belong to names, one behind the other in the order of the names.
-/
def inOrder {α : Type} (lists : List (String × List α)) : List α :=
  (lists.mergeSort fun a b => decide (a.1 ≤ b.1)).flatMap (·.2)

mutual

/--
The source files at or below an entry of a directory.
-/
def sourcesAt (path : Path) (name : String) : Tree → List Path
  | .file _ => if isSource name then [path ++ [name]] else []
  | .dir entries =>
    if skippedNames.contains name then
      []
    else
      inOrder (sourcesOf (path ++ [name]) entries)
  | .closed => []

def sourcesOf (path : Path) : List (String × Tree) → List (String × List Path)
  | [] => []
  | (name, tree) :: entries => (name, sourcesAt path name tree) :: sourcesOf path entries

end

/--
The source files below a directory that is found at a path, in the order of their names.
-/
def sources (path : Path) : Tree → List Path
  | .dir entries => inOrder (sourcesOf path entries)
  | _ => []

end Tree
end CodeGauge
