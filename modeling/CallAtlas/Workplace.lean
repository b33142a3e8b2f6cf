import CallAtlas.Settings
import CallAtlas.SettingsFile
import CallAtlas.Source.Files

/-!
Where the program runs: the folder that relative paths start from, the files, and the environment.
-/

namespace CallAtlas

/-- Why a workplace has no settings: some do not fit, or its settings file is not UTF-8. -/
inductive SettingsFault where
  | invalid (errors : List SettingError)
  | garbled (fault : Utf8.Fault)
deriving Repr, DecidableEq, Inhabited

/-- The text that explains a fault; `help` is the address of the pages on settings. -/
def SettingsFault.message (help : String) : SettingsFault → String
  | .invalid errors => SettingError.summary help errors
  | .garbled fault => fault.message

/-- Where a command runs: the working folder, all files, and the environment. -/
structure Workplace where
  folder : Path
  files : FileTree
  environment : List (Text × Text) := []
deriving Inhabited

namespace Workplace

/-- What the file `.env` in the folder of a workplace sets; nothing if there is no such file. -/
def settingsFile (workplace : Workplace) : Except Utf8.Fault (List (Text × Option Text)) :=
  match workplace.files.get? (workplace.folder ++ [Text.plain ".env"]) with
  | some (.file text) => .ok (SettingsFile.read workplace.environment text)
  | some (.garbled fault) => .error fault
  | _ => .ok []

/-- The settings of a workplace, from its environment and its settings file. -/
def settings (workplace : Workplace) : Except SettingsFault Settings := do
  let file ← workplace.settingsFile.mapError .garbled
  (Settings.ofGiven { environment := workplace.environment, file }).mapError .invalid

/-- The folder from which a path text starts: the root, or the working folder. -/
def startOf (workplace : Workplace) (text : Text) : Path :=
  if text.startsWith "/" then [] else workplace.folder

/-- The path that a text means; two dots go one folder up, whether the folder is there or not. -/
def resolve (workplace : Workplace) (text : Text) : Path :=
  (Path.ofText text).foldl
    (fun (path : Path) (part : Text) => if part = ".." then path.dropLast else path ++ [part])
    (workplace.startOf text)

/-- The path that a text means, if two dots stand only after folders that are there. -/
def locate? (workplace : Workplace) (text : Text) : Option Path :=
  (Path.ofText text).foldlM
    (fun (path : Path) (part : Text) =>
      if part = ".." then
        if workplace.files.isFolder path then some path.dropLast else none
      else some (path ++ [part]))
    (workplace.startOf text)

end Workplace

end CallAtlas
