import CallAtlas.Json.Printer
import CallAtlas.Json.Reader
import CallAtlas.Log
import CallAtlas.Module.Listing
import CallAtlas.Source.Fault
import CallAtlas.Source.Files
import CallAtlas.Source.Pattern
import CallAtlas.Text.Sorted

/-!
Folders of dumped trees.  Each `.json` file holds one quoted tree, which may define several modules.
An index from modules to files is made whenever the folder is listed; a look-up uses the index and
makes it anew if it has no file for the module.
-/

namespace CallAtlas

namespace Dump

def write (tree : Term) : String := tree.encode.render (.lines 1)

inductive Fault where
  | unreadable (cause : Json.ReadError)
  | unexpectedObject (cause : Term.UnexpectedObject)
deriving Repr, DecidableEq, Inhabited

def read [Depths] (text : String) : Except Fault Term :=
  match Json.read Depths.read text with
  | .error cause => .error (.unreadable cause)
  | .ok value =>
    match Term.decode value with
    | .error cause => .error (.unexpectedObject cause)
    | .ok tree => .ok tree

def Fault.inFile (file : Text) : Fault → SourceFault
  | .unreadable .malformed => .malformed file
  | .unreadable .tooDeep => .tooDeep file
  | .unreadable (.oversized digits) => .oversized digits
  | .unexpectedObject cause => .unexpectedObject cause

end Dump

/-- A folder of dumps: where it is, how messages name it, which names are left out, and the file of
each module known from the last listing. -/
structure Dumps where
  folder : Path
  label : Text
  excludes : List Text
  index : Table Text Path := .empty
deriving Repr, DecidableEq, Inhabited

namespace Dumps

/-- Names that are always left out. -/
def standardExcludes : List Text := ["_build", "deps", "node_modules"]

/-- A folder that was not listed yet. -/
def ofFolder (folder : Path) (label : Text) (excludes : List Text) : Dumps :=
  { folder, label, excludes := standardExcludes ++ excludes }

/-- A file of the folder, as messages name it. -/
def fileText (dumps : Dumps) (file : Path) : Text := file.textBelow dumps.label

/-- Whether a path is left out: a component is hidden or fits an exclusion pattern. -/
def isExcluded (dumps : Dumps) (file : Path) : Bool :=
  file.any fun part =>
    part.startsWith "." || dumps.excludes.any fun pattern => fitsPattern pattern part

def isDumpName (name : Text) : Bool := (Text.points ".json").isSuffixOf name.points

/-- The dumps of the folder, in the order of their path components. -/
def files (dumps : Dumps) (tree : FileTree) : List Path :=
  ((tree.pathsIn dumps.folder).filter fun path =>
    isDumpName (path.getLast?.getD "") && !dumps.isExcluded path).mergeSort namesLe

def load [Depths] (dumps : Dumps) (tree : FileTree) (file : Path) : Except SourceFault Term :=
  match tree.get? (dumps.folder ++ file) with
  | some (.file text) => (Dump.read text).mapError (Dump.Fault.inFile (dumps.fileText file))
  | _ => .error (.unreadable (dumps.fileText file))

/-- Enters the modules of a file into an index.  The last file of a module wins. -/
def enter (dumps : Dumps) (file : Path) (index : Table Text Path) :
    List (Text × Term) → Table Text Path × Log
  | [] => (index, [])
  | (name, _) :: rest =>
    let clash : Log :=
      match index.get? name with
      | some other =>
        [⟨.warning, .dumps,
          "Module " ++ name ++ " defined in " ++ dumps.fileText other ++ " and "
            ++ dumps.fileText file⟩]
      | none => []
    let (index, log) := dumps.enter file (index.insert name file) rest
    (index, clash ++ log)

/-- An index with what was reported while it was made. -/
structure Indexing where
  index : Except SourceFault (Table Text Path)
  log : Log := []
deriving Repr, Inhabited

/-- Enters the modules of all files.  A file that cannot be read is reported and passed over. -/
def enterAll [Depths] (dumps : Dumps) (tree : FileTree) (index : Table Text Path) :
    List Path → Indexing
  | [] => { index := .ok index }
  | file :: rest =>
    match dumps.load tree file with
    | .error fault =>
      if fault.isReported then
        let skipped : LogRecord :=
          ⟨.warning, .dumps, "Skipping " ++ dumps.fileText file ++ ": " ++ fault.message⟩
        let indexing := dumps.enterAll tree index rest
        { indexing with log := skipped :: indexing.log }
      else { index := .error fault }
    | .ok content =>
      let listing := Listing.ofTree none content
      let (index, log) := dumps.enter file index listing.modules
      if listing.endless then { index := .error .endless, log }
      else
        let indexing := dumps.enterAll tree index rest
        { indexing with log := log ++ indexing.log }

/-- The index of the folder as it is now. -/
def makeIndex [Depths] (dumps : Dumps) (tree : FileTree) : Indexing :=
  if tree.isFolder dumps.folder then dumps.enterAll tree .empty (dumps.files tree)
  else { index := .error (.noFolder dumps.label) }

/-- The result of an operation that may have made the index anew. -/
structure Outcome (α : Type) where
  value : Except SourceFault α
  dumps : Dumps
  log : Log := []
deriving Inhabited

/-- Lists the modules of the folder and keeps the index. -/
def list [Depths] (dumps : Dumps) (tree : FileTree) : Outcome (List Text) :=
  let indexing := dumps.makeIndex tree
  match indexing.index with
  | .ok index => { value := .ok index.keys, dumps := { dumps with index }, log := indexing.log }
  | .error fault => { value := .error fault, dumps, log := indexing.log }

def definition [Depths] (dumps : Dumps) (tree : FileTree) (file : Path) (module : Text) :
    Except SourceFault (Option Term) :=
  match dumps.load tree file with
  | .error fault => .error fault
  | .ok content =>
    match content.select module with
    | .ok found => .ok found
    | .error _ => .error .endless

/-- The file that the index has for a module, if it is still there. -/
def knownFile (dumps : Dumps) (tree : FileTree) (module : Text) : Option Path :=
  (dumps.index.get? module).filter fun file => tree.contains (dumps.folder ++ file)

/-- The definition of a module.  Without a known file the folder is listed again first. -/
def resolve [Depths] (dumps : Dumps) (tree : FileTree) (module : Text) : Outcome (Option Term) :=
  match dumps.knownFile tree module with
  | some file => { value := dumps.definition tree file module, dumps }
  | none =>
    let listed := dumps.list tree
    match listed.value with
    | .error fault => { value := .error fault, dumps := listed.dumps, log := listed.log }
    | .ok _ =>
      match listed.dumps.index.get? module with
      | some file =>
        { value := listed.dumps.definition tree file module
          dumps := listed.dumps
          log := listed.log }
      | none => { value := .ok none, dumps := listed.dumps, log := listed.log }

end Dumps

end CallAtlas
