import QueryAudit.Csv
import QueryAudit.Log
import QueryAudit.Source

/-!
# Files

What opening a path gives, a tree of files to open paths in, and how index lists and statements are
read from what was opened. A directory can be opened, but not read.
-/

namespace QueryAudit

/-- What opening a path for reading gives. -/
inductive Opening where
  | file (bytes : List UInt8)
  | directory
  | missing
  | refused (why : String)
  deriving DecidableEq, Repr

namespace Opening

/-- Why there is nothing to open. -/
def whyMissing : String := "No such file or directory (os error 2)"

/-- Why a file has no entries. -/
def whyNoDirectory : String := "Not a directory (os error 20)"

/-- Why a directory cannot be read. -/
def whyDirectory : String := "Is a directory (os error 21)"

/-- Why a long path cannot be looked up. -/
def whyTooLong : String := "File name too long (os error 36)"

/-- Why a path with a zero byte cannot be looked up. -/
def whyZeroByte : String := "file name contained an unexpected NUL byte"

/-- The index list at a path. -/
def catalog (path : String) : Opening → Except Error Catalog
  | .file bytes => Csv.catalog bytes
  | .directory => .error (Csv.unreadable whyDirectory)
  | .missing => .error (.catalog ("index list not found at " ++ path))
  | .refused why => .error (.io why)

/-- The index list at a path, with the note that is taken when it has been loaded. -/
def load (path : String) (o : Opening) : Except Error (Catalog × Note) :=
  (o.catalog path).map fun c => (c, c.note)

/-- The statements at a path, or why it cannot be opened. -/
def statements : Opening → Except String Source
  | .file bytes => .ok (.ofBytes bytes)
  | .directory => .ok (.ofBuffers [] (some whyDirectory))
  | .missing => .error whyMissing
  | .refused why => .error why

end Opening

/-- A file, or a directory with named entries. -/
inductive FileTree where
  | file (bytes : List UInt8)
  | directory (entries : List (String × FileTree))
  deriving Repr

namespace FileTree

/-- The directory without entries. -/
def empty : FileTree := .directory []

/-- The entries of a directory; a file has none. -/
def entries : FileTree → List (String × FileTree)
  | .file _ => []
  | .directory entries => entries

@[simp] theorem entries_directory (entries : List (String × FileTree)) :
    (directory entries).entries = entries := rfl

/-- The tree with another one at a path, given by its names. Directories on the way are made. -/
def put (added : FileTree) : List String → FileTree → FileTree
  | [], _ => added
  | name :: names, t =>
    let inner := (t.entries.lookup name).getD empty
    .directory ((name, put added names inner) :: t.entries.filter fun e => e.1 ≠ name)

/-- What is reached by itself. -/
def opening : FileTree → Opening
  | .file bytes => .file bytes
  | .directory _ => .directory

/-- The bytes that the name of an entry may have at most. -/
def longestName : Nat := 255

/-- The bytes that a path may have at most. -/
def longestPath : Nat := 4095

/-- Follow a path, given by the names in it, from a tree with those above it. Nothing is known of
    what is above the topmost tree. -/
def walk (above : List FileTree) (here : FileTree) : List String → Opening
  | [] => here.opening
  | name :: names =>
    match here with
    | .file _ => .refused Opening.whyNoDirectory
    | .directory entries =>
      if name = "" || name = "." then walk above here names
      else if name = ".." then
        match above with
        | parent :: above => walk above parent names
        | [] => walk [] empty names
      else if name.utf8ByteSize > longestName then .refused Opening.whyTooLong
      else
        match entries.lookup name with
        | some t => walk (here :: above) t names
        | none => .missing

/-- The parts of a path between its slashes. -/
def names (path : String) : List String :=
  path.splitOn "/"

/-- Open a path, relative to a tree unless it begins with a slash. -/
def openPath (t : FileTree) (path : String) : Opening :=
  if path.contains (Char.ofNat 0) then .refused Opening.whyZeroByte
  else if path = "" then .missing
  else if path.utf8ByteSize > longestPath then .refused Opening.whyTooLong
  else if path.startsWith "/" then walk [] empty (names path)
  else walk [] t (names path)

end FileTree

end QueryAudit
