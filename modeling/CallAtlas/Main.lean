import CallAtlas.Command.Run

/-!
The command line: reads the files that a command needs, runs it, and prints what it prints.
-/

namespace CallAtlas.Main

/-- Reads everything in a folder. -/
partial def readFolder (folder : Path) (files : FileTree) : IO FileTree := do
  let place := System.mkFilePath [folder.absolute.spelledOut]
  if !(← place.isDir) then return files
  let mut files := files.write folder .folder
  for item in ← place.readDir do
    let path := folder ++ [Text.plain item.fileName]
    if ← item.path.isDir then
      files ← readFolder path files
    else
      let bytes ← IO.FS.readBinFile item.path
      files := files.write path (.ofBytes bytes)
  return files

def readFile (path : Path) (files : FileTree) : IO FileTree := do
  let place := System.mkFilePath [path.absolute.spelledOut]
  if ← place.pathExists then
    let bytes ← IO.FS.readBinFile place
    return files.write path (.ofBytes bytes)
  else return files

/-- The variables of the environment that set something. -/
def readEnvironment : IO (List (Text × Text)) := do
  let names : List SettingName :=
    [.sourceDir, .logLevel, .policy, .maxNodes, .maxEdges, .unknownModule]
  names.filterMapM fun name => do
    let variableName := (Settings.variableStem ++ name.text).map Char.toUpper
    return (← IO.getEnv variableName).map fun value => (variableName, value)

def crashText : Command.Crash → Text
  | .markup cause => cause.message
  | .level cause => cause.message
  | .settings cause => cause.message ""
  | .source cause => cause.message
  | .path cause => cause.message
  | .unwritable cause => cause.message
  | .unprintable cause => cause.message

end CallAtlas.Main

open CallAtlas in
def main (arguments : List String) : IO UInt32 := do
  let folder := Path.ofText (← IO.currentDir).toString
  let arguments := arguments.map Text.plain
  let files ← Main.readFile (folder ++ [Text.plain ".env"]) .empty
  let environment ← Main.readEnvironment
  let workplace : Workplace := { folder, files, environment }
  let files ←
    match Command.folderFor workplace arguments with
    | some source => Main.readFolder source files
    | none => pure files
  let output := Command.run { workplace with files } arguments
  for entry in output.log do
    IO.eprintln
      (entry.level.name ++ " | " ++ entry.channel.name ++ " | " ++ entry.message.spelledOut)
  IO.print output.out
  IO.eprint output.err
  match output.crash with
  | some crash => IO.eprintln (Main.crashText crash).spelledOut
  | none => pure ()
  return output.exitCode.toUInt32
