/-!
# File trees

The files below one directory, as a value. A directory is there when a file is below it. Paths are
resolved name by name: all but the last name of a path have to be directories. Of what is outside
the tree only the directories above it, a few directories and the null device are known.
-/
namespace DocSchema

inductive FileFault where
  | notFound
  | notDirectory
  | isDirectory
  | nameTooLong
  | nulInName
  | other (text : String)
  deriving DecidableEq, Repr

def FileFault.message : FileFault → String
  | .notFound => "No such file or directory (os error 2)"
  | .notDirectory => "Not a directory (os error 20)"
  | .isDirectory => "Is a directory (os error 21)"
  | .nameTooLong => "File name too long (os error 36)"
  | .nulInName => "file name contained an unexpected NUL byte"
  | .other text => text

/-- A path as the names from the top directory down. -/
abbrev Path := List String

structure FileTree where
  files : List (Path × String)
  deriving DecidableEq, Repr

namespace FileTree

def content? (t : FileTree) (path : Path) : Option String :=
  (t.files.find? (·.1 == path)).map (·.2)

def isDirectory (t : FileTree) (path : Path) : Bool :=
  path.isEmpty || t.files.any fun f => path.isPrefixOf f.1 && f.1 != path

/-- The longest name of a file, in bytes. -/
def maxName : Nat := 255

inductive Place where
  | inside (path : Path)
  /-- A directory that is not in the tree. -/
  | directory
  /-- A name in a directory that is not in the tree. -/
  | outside
  /-- The device that is empty and takes everything. -/
  | null
  deriving DecidableEq, Repr

/-- Follows names from a directory above the tree. -/
def resolveAbove : List String → Except FileFault Place
  | [] => .ok .directory
  | name :: names =>
    if name == "" || name == "." || name == ".." then resolveAbove names
    else if maxName < name.utf8ByteSize then .error .nameTooLong
    else if names.isEmpty then .ok .outside
    else .error .notFound

/-- Follows names from a directory. The last name need not be there. -/
def resolveFrom (t : FileTree) : Path → List String → Except FileFault Place
  | directory, [] => .ok (.inside directory)
  | directory, name :: names =>
    if name == "" || name == "." then resolveFrom t directory names
    else if name == ".." then
      if directory.isEmpty then resolveAbove names else resolveFrom t directory.dropLast names
    else if maxName < name.utf8ByteSize then .error .nameTooLong
    else
      let path := directory ++ [name]
      if names.isEmpty then .ok (.inside path)
      else if t.isDirectory path then resolveFrom t path names
      else if (t.content? path).isSome then .error .notDirectory
      else .error .notFound

/-- The directories that are known outside the tree. -/
def knownDirectories : List Path := [[], ["dev"], ["tmp"]]

def resolveAbsolute (names : List String) : Except FileFault Place :=
  let path := names.filter fun name => name != "" && name != "."
  if path ∈ knownDirectories then .ok .directory
  else if path = ["dev", "null"] then .ok .null
  else .error .notFound

def maxPath : Nat := 4095

def splitSlashes : List Char → List (List Char)
  | [] => [[]]
  | '/' :: cs => [] :: splitSlashes cs
  | c :: cs =>
    match splitSlashes cs with
    | [] => [[c]]
    | name :: names => (c :: name) :: names

/-- The names of a path; an empty one before a slash at its start. -/
def names (path : String) : List String := (splitSlashes path.toList).map String.ofList

def resolve (t : FileTree) (path : String) : Except FileFault Place :=
  if path.toList.contains '\x00' then .error .nulInName
  else if path.toList.isEmpty then .error .notFound
  else if maxPath < path.utf8ByteSize then .error .nameTooLong
  else if path.toList.head? == some '/' then resolveAbsolute (names path)
  else t.resolveFrom [] (names path)

def isPresent (t : FileTree) (path : String) : Bool :=
  match t.resolve path with
  | .ok (.inside path) => t.isDirectory path || (t.content? path).isSome
  | .ok .outside => false
  | .ok _ => true
  | .error _ => false

def read (t : FileTree) (path : String) : Except FileFault String := do
  match ← t.resolve path with
  | .inside path =>
    if t.isDirectory path then throw .isDirectory
    match t.content? path with
    | some content => return content
    | none => throw .notFound
  | .directory => throw .isDirectory
  | .outside => throw .notFound
  | .null => return ""

def put (t : FileTree) (path : Path) (content : String) : FileTree :=
  if (t.content? path).isSome then
    ⟨t.files.map fun f => if f.1 == path then (path, content) else f⟩
  else ⟨t.files ++ [(path, content)]⟩

def trimSlashes (path : String) : String :=
  match path.toList.reverse.dropWhile (· == '/') with
  | [] => "/"
  | cs => String.ofList cs.reverse

/-- Writes a file in a directory that is there. A path that ends in a slash names a directory. What
is written outside does not change the tree. -/
def write (t : FileTree) (path : String) (content : String) : Except FileFault FileTree := do
  if path.toList.getLast? == some '/' then
    let _ ← t.resolve (trimSlashes path)
    throw .isDirectory
  match ← t.resolve path with
  | .inside path =>
    if t.isDirectory path then throw .isDirectory
    return t.put path content
  | .directory => throw .isDirectory
  | .outside => return t
  | .null => return t

end FileTree

end DocSchema
