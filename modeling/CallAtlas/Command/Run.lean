import CallAtlas.Command.Invocation
import CallAtlas.Command.Markup
import CallAtlas.Graph.Text
import CallAtlas.Session
import CallAtlas.Workplace

/-!
Running a command: what it prints, and how it ends.
-/

namespace CallAtlas.Command

/-- Why a command ended without an answer of its own.  What cannot be written is told apart by whether
it was written plainly or shown on the console. -/
inductive Crash where
  | markup (cause : Markup.Fault)
  | level (cause : UnknownLevel)
  | settings (cause : SettingsFault)
  | source (cause : SourceFault)
  | path (cause : PathFault)
  | unwritable (cause : WriteFault)
  | unprintable (cause : Stray)
deriving Repr, DecidableEq, Inhabited

/-- What a command printed and how it ended. -/
structure Output where
  exitCode : Nat := 0
  out : String := ""
  err : String := ""
  crash : Option Crash := none
  log : Log := []
deriving Inhabited

def usageError : Output := { exitCode := 2 }

/-- Ends with a crash after what was printed. -/
def crashed (crash : Crash) (out : String) (log : Log) : Output :=
  { exitCode := 1, out, crash := some crash, log }

/-- A marked-up line, or what keeps it from being written. -/
abbrev Line := Except WriteFault Text

/-- A marked-up text as the console shows it. -/
def showText (text : Text) : Except Crash String :=
  match Markup.shown text with
  | .error fault => .error (.markup fault)
  | .ok visible =>
    match visible.stray? with
    | some cause => .error (.unprintable cause)
    | none => .ok visible.spelledOut

/-- Marked-up lines as the console shows them, up to the first that cannot be shown. -/
def showLines : List Line → List String × Option Crash
  | [] => ([], none)
  | .error fault :: _ => ([], some (.unwritable fault))
  | .ok line :: rest =>
    match showText line with
    | .error crash => ([], some crash)
    | .ok visible =>
      let (more, crash) := showLines rest
      ((visible ++ "\n") :: more, crash)

/-- Ends with marked-up lines on standard output. -/
def printed (lines : List Line) (log : Log) : Output :=
  match showLines lines with
  | (shown, none) => { out := String.join shown, log }
  | (shown, some crash) => crashed crash (String.join shown) log

/-- Ends with a text on standard output, and a notice, unless the text cannot be written. -/
def written (fault : Option WriteFault) (text : Text) (notice : String) (log : Log) : Output :=
  match fault.or (WriteFault.ofText? text) with
  | some cause => crashed (.unwritable cause) "" log
  | none => { out := text.spelledOut ++ "\n", err := notice, log }

/-- Ends with a data value on one line, unless it cannot be written. -/
def writtenData (value : Except WriteFault Json) (log : Log) : Output :=
  match value with
  | .error cause => crashed (.unwritable cause) "" log
  | .ok value => { out := value.render .oneLine ++ "\n", log }

def failed (message : Text) (log : Log) : Output :=
  match Markup.shown ("[red]Error:[/red] " ++ message) with
  | .ok visible => { exitCode := 1, err := visible.spelledOut ++ "\n", log }
  | .error fault => crashed (.markup fault) "" log

/-- Ends with the failure of a scan: an answer if it is reported, otherwise a crash. -/
def failedScan (cause : RescanError) (log : Log) : Output :=
  match cause with
  | .failed (.source fault) =>
    if fault.isReported then failed fault.message log else crashed (.source fault) "" log
  | cause => failed cause.message log

def dumpsFor (workplace : Workplace) (source : Text) : Dumps :=
  let folder := workplace.resolve source
  Dumps.ofFolder folder folder.absolute []

/-- The marked-up lines for the counts and failures of a scan. -/
def statsLines (stats : ScanStats) : List Text :=
  let counts : List Text := [
    "  Modules normalized: " ++ toString stats.modules,
    "  Functions found: " ++ toString stats.functions,
    "  Calls recorded: " ++ toString stats.calls]
  let removed : List Text :=
    if stats.removed = 0 then [] else ["  [dim]Removed: " ++ toString stats.removed ++ "[/]"]
  let failed : List Text :=
    if stats.failed = 0 then []
    else
      ("  [red]Failed: " ++ toString stats.failed ++ "[/red]")
        :: stats.errors.map fun error => "    " ++ error
  counts ++ removed ++ failed

def callLine (call : Call) : Line :=
  let target : Text :=
    if call.dynamic then "?"
    else
      match call.module with
      | some module => if module.isEmpty then "(local)" else module
      | none => "(local)"
  let place : Text :=
    match call.position with
    | some position => " [dim](line " ++ position.text ++ ")[/]"
    | none => ""
  match call.textFault? with
  | some fault => .error fault
  | none => .ok ("    " ++ target ++ "." ++ call.name ++ "/" ++ toString call.arity ++ place)

def clauseLines (clause : Clause) : List Line :=
  let keyword := if clause.isPrivate then "defp" else "def"
  let arity :=
    match clause.arity with
    | some arity => toString arity
    | none => "?"
  .ok ("\n  [green]" ++ keyword ++ "[/] [cyan]" ++ clause.name ++ "/" ++ arity ++ "[/]")
    :: (if clause.calls.isEmpty then [.ok "    [dim]No calls found[/]"]
        else clause.calls.map callLine)

def blockLines (block : Block) : List Line :=
  .ok ("\n[bold cyan]" ++ block.name ++ "[/] (module)")
    :: (match block.position with
        | some position => [.ok ("  [dim]line " ++ position.text ++ "[/]")]
        | none => [])
    ++ (block.attributes.map fun entry => .ok ("  [dim]@" ++ entry.key ++ "[/]"))
    ++ block.clauses.flatMap clauseLines

/-- Runs an action on a session that was scanned. -/
def runScanned (session : Session) (log : Log) : Action → Output
  | .modules asJson =>
    let names := session.store.names
    if asJson then writtenData (.ok (.array (names.map .text))) log
    else if names.isEmpty then printed [.ok "No modules found"] log
    else printed (names.map fun name => .ok ("[cyan]" ++ name ++ "[/cyan]")) log
  | .block module asJson =>
    match session.block module with
    | .error missing => failed missing.message log
    | .ok block =>
      if asJson then writtenData block.value log
      else printed (blockLines block) log
  | .graph module function arity format maxNodes maxEdges _ =>
    let built := session.graph (.text module) (.text function) (.int arity)
      { nodes := maxNodes.map .count, edges := maxEdges.map .count } none
    let log := log ++ built.log
    match built.graph with
    | .error cause => failed cause.message log
    | .ok graph =>
      let notice := if graph.truncated then "Graph truncated: budget reached\n" else ""
      match format with
      | .json => writtenData graph.value log
      | .diagram => written graph.diagramFault? graph.diagram notice log
      | .text => written graph.textFault? graph.text notice log
  | _ => { log }

def runScanData [Depths] (session : Session) (files : FileTree) : Output :=
  let scanned := session.rescan files
  match scanned.value with
  | .error cause => failedScan cause scanned.log
  | .ok rescanned => writtenData (.ok (.object rescanned.stats.fields)) scanned.log

/-- The marked-up line that says what a running scan is at. -/
def progressLine (description : Text) : Text := "[progress.description]" ++ description

def firstProgress (folder : Text) : Text := progressLine ("Scanning [cyan]" ++ folder ++ "[/]")

/-- The progress line when a scan ended: the module that came last. -/
def lastProgress (folder : Text) (rescanned : Session.Rescanned) : Text :=
  match rescanned.progress.getLast? with
  | some (module, _, _) => progressLine ("[cyan]" ++ module ++ "[/]")
  | none => firstProgress folder

/-- Two columns stand before a progress line. -/
def besideProgress (cause : Stray) : Stray := { cause with position := cause.position + 2 }

/-- Scans and reports the counts.  The progress line must be readable before the scan, and is shown
after it. -/
def runScan [Depths] (session : Session) (folder : Text) (files : FileTree) : Output :=
  match Markup.read (firstProgress folder) with
  | .error fault => crashed (.markup fault) "" []
  | .ok _ =>
    let scanned := session.rescan files
    match scanned.value with
    | .error cause => failedScan cause scanned.log
    | .ok rescanned =>
      match showText (lastProgress folder rescanned) with
      | .error (.unprintable cause) => crashed (.unprintable (besideProgress cause)) "" scanned.log
      | .error crash => crashed crash "" scanned.log
      | .ok _ =>
        let done : Text := "[green]Done![/green]"
        printed ((done :: statsLines rescanned.stats).map .ok) scanned.log

def runAst [Depths] (dumps : Dumps) (files : FileTree) (module : Text) : Output :=
  let found := dumps.resolve files module
  match found.value with
  | .error fault => failedScan (.failed (.source fault)) found.log
  | .ok none => failed ("Module '" ++ module ++ "' not found") found.log
  | .ok (some tree) => { out := tree.encode.render (.lines 2) ++ "\n", log := found.log }

def runAction [Depths] (dumps : Dumps) (files : FileTree) (settings : Settings) (action : Action) :
    Output :=
  let session (settings : Settings) : Session := { settings, source := .dumps dumps }
  match action with
  | .scan true => runScanData (session settings) files
  | .scan false => runScan (session settings) (dumps.folder.getLast?.getD "") files
  | .ast module => runAst dumps files module
  | action =>
    let settings : Settings :=
      match action with
      | .graph _ _ _ _ _ _ true => { settings with policy := .strict }
      | _ => settings
    let scanned := (session settings).rescan files
    match scanned.value with
    | .error cause => failedScan cause scanned.log
    | .ok _ => runScanned scanned.session scanned.log action

/-- Runs a command.  The settings are not read to print a tree from a folder that is named. -/
def runInvocation [Depths] (workplace : Workplace) (invocation : Invocation) : Output :=
  match invocation.action, invocation.source with
  | .ast module, some source => runAst (dumpsFor workplace source) workplace.files module
  | action, source =>
    match workplace.settings with
    | .error cause => crashed (.settings cause) "" []
    | .ok settings =>
      let source := source.getD settings.sourceDir
      match PathFault.ofText? source with
      | some cause => crashed (.path cause) "" []
      | none => runAction (dumpsFor workplace source) workplace.files settings action

/-- The folder whose dumps the command line reads, if its arguments fit a command. -/
def folderFor (workplace : Workplace) (arguments : List Text) : Option Path := do
  let opening ← openingOf arguments
  let invocation ← (invocationOf opening.command opening.arguments).toOption
  let source ← invocation.source.or (workplace.settings.toOption.map Settings.sourceDir)
  pure (dumpsFor workplace source).folder

/-- The severity from which on records are kept: that of the level asked for, or of the settings,
which are read only if no level is asked for. -/
def severityFor (workplace : Workplace) (logLevel : Option Text) : Except Crash Nat := do
  let asked := logLevel.getD ""
  let name ←
    if asked.isEmpty then (workplace.settings.mapError .settings).map Settings.logLevel
    else pure asked
  ((severityOf name).mapError .level).map effectiveSeverity

/-- Runs the command line.  Arguments up to the command are read first, then the level is set, then
the arguments of the command are read. -/
def run [Depths] (workplace : Workplace) (arguments : List Text) : Output :=
  match openingOf arguments with
  | none => usageError
  | some opening =>
    match severityFor workplace opening.logLevel with
    | .error crash => crashed crash "" []
    | .ok severity =>
      match invocationOf opening.command opening.arguments with
      | .error .usage => usageError
      | .error (.path cause) => crashed (.path cause) "" []
      | .ok invocation =>
        let output := runInvocation workplace invocation
        { output with log := output.log.atLeast severity }

end CallAtlas.Command
