import CallAtlas.Table
import CallAtlas.Text.Pieces
import CallAtlas.Text.Stray
import CallAtlas.Text.Utf8

/-!
A tree of files and folders, by the components of their paths.
-/

namespace CallAtlas

/-- The components of a path below the root of a tree. -/
abbrev Path := List Text

/-- A folder, a file with its text, or a file that is not UTF-8. -/
inductive Entry where
  | folder
  | file (content : String)
  | garbled (fault : Utf8.Fault)
deriving Repr, DecidableEq, Inhabited

/-- The file that holds some bytes. -/
def Entry.ofBytes (bytes : ByteArray) : Entry :=
  match Utf8.read bytes with
  | .ok content => .file content
  | .error fault => .garbled fault

/-- Files and folders by path.  The root itself is always there. -/
structure FileTree where
  entries : Table Path Entry
deriving Repr, DecidableEq, Inhabited

/-- Why a text cannot name a file or folder. -/
inductive PathFault where
  | stray (cause : Stray)
  | null
deriving Repr, DecidableEq, Inhabited

namespace PathFault

def message : PathFault → String
  | .stray cause => cause.message
  | .null => "embedded null byte"

/-- What keeps a text from naming a file or folder. -/
def ofText? (text : Text) : Option PathFault :=
  match text.systemStray? with
  | some cause => some (.stray cause)
  | none => if text.points.contains (.char '\x00') then some .null else none

end PathFault

namespace Path

/-- The components of a path, without empty ones and single dots. -/
def ofText (text : Text) : Path :=
  (text.pieces '/').filter fun part => part ≠ "" && part ≠ "."

def text (path : Path) : Text := Text.joined "/" path

/-- A path with the slash of the root before it. -/
def absolute (path : Path) : Text := "/" ++ path.text

/-- A path below a folder that is written `folder`.  A single dot is not written before it. -/
def textBelow (folder : Text) (path : Path) : Text :=
  match path with
  | [] => folder
  | path =>
    if folder = "." then path.text
    else if folder.points.getLast? = some (.char '/') then folder ++ path.text
    else folder ++ "/" ++ path.text

/-- All folders above a path below the root, the outermost first. -/
def ancestors : Path → List Path
  | [] => []
  | [_] => []
  | part :: rest => [part] :: (ancestors rest).map (part :: ·)

/-- The rest of a path below a folder, if it lies there. -/
def below? : Path → Path → Option Path
  | [], path => some path
  | _ :: _, [] => none
  | a :: folder, b :: path => if a = b then below? folder path else none

end Path

namespace FileTree

def empty : FileTree := ⟨.empty⟩

def get? (files : FileTree) (path : Path) : Option Entry :=
  if path.isEmpty then some .folder else files.entries.get? path

def contains (files : FileTree) (path : Path) : Bool := (files.get? path).isSome

def isFolder (files : FileTree) (path : Path) : Bool := files.get? path == some .folder

/-- Makes the folders that are missing above a path. -/
def withFolders (files : FileTree) (path : Path) : FileTree :=
  ⟨path.ancestors.foldl
    (fun entries folder =>
      if entries.contains folder then entries else entries.insert folder .folder)
    files.entries⟩

/-- Writes a file or makes a folder, and the folders above it. -/
def write (files : FileTree) (path : Path) (entry : Entry) : FileTree :=
  ⟨(files.withFolders path).entries.insert path entry⟩

/-- Removes a file, or a folder with everything in it. -/
def delete (files : FileTree) (path : Path) : FileTree :=
  ⟨files.entries.filterKeys fun other => (path.below? other).isNone⟩

/-- The paths of everything inside a folder, relative to it. -/
def pathsIn (files : FileTree) (folder : Path) : List Path :=
  (files.entries.keys.filterMap folder.below?).filter fun path => !path.isEmpty

end FileTree

end CallAtlas
