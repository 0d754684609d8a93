/-!
# Files

Reading a path gives the bytes of a file, or no file, or the reason why what is there cannot be
read. A file tree is a set of files and directories below a working directory; paths are followed
in it part by part, and only a directory can be passed through.
-/

namespace PathSort

set_option autoImplicit false

inductive FileRead where
  | absent
  | failed (reason : String)
  | bytes (content : ByteArray)

abbrev FileSystem : Type := String → FileRead

/-- Files and directories by the parts of their paths below a working directory. -/
structure FileTree where
  files : List (List String × ByteArray)
  directories : List (List String)

namespace FileTree

def isDirectoryReason : String := "Is a directory (os error 21)"

def notDirectoryReason : String := "Not a directory (os error 20)"

def parts (path : String) : List String := (path.toList.splitOn '/').map String.ofList

/-- The tree with an item more: a file if it has content, else a directory. -/
def add (tree : FileTree) (path : String) : Option ByteArray → FileTree
  | some content => { tree with files := (parts path, content) :: tree.files }
  | none => { tree with directories := parts path :: tree.directories }

/-- Whether a path below the working directory leads to a directory: the working directory itself, a
listed directory, or what a listed item lies below. -/
def isDirectory (tree : FileTree) (path : List String) : Bool :=
  path.isEmpty || tree.directories.any path.isPrefixOf ||
    tree.files.any fun file => path.isPrefixOf file.1 && path ≠ file.1

def readParts (tree : FileTree) (path : List String) : FileRead :=
  match tree.files.find? (·.1 = path) with
  | some file => .bytes file.2
  | none => if tree.isDirectory path then .failed isDirectoryReason else .absent

def stays (part : String) : Bool := part = "" || part = "."

/-- Follows parts of a path from a place outside the tree, of which only its directories are known.
-/
def followOutside (parts : List String) : FileRead :=
  if parts.all fun part => stays part || part = ".." then .failed isDirectoryReason else .absent

/-- Follows parts of a path from a place below the working directory. -/
def follow (tree : FileTree) : List String → List String → FileRead
  | place, [] => tree.readParts place
  | place, part :: rest =>
      match tree.readParts place with
      | .absent => .absent
      | .bytes _ => .failed notDirectoryReason
      | .failed _ =>
          if stays part then tree.follow place rest
          else if part = ".." then
            if place.isEmpty then followOutside rest else tree.follow place.dropLast rest
          else tree.follow (place ++ [part]) rest

def read (tree : FileTree) : FileSystem := fun path =>
  if path = "" then .absent
  else if path.toList.head? = some '/' then followOutside (parts path)
  else tree.follow [] (parts path)

end FileTree

end PathSort
