import CallAtlas.Graph.Text
import CallAtlas.Json.Printer
import CallAtlas.Session
import CallAtlas.Workplace

/-!
Tools: the operations of a session for callers that pass data values and take texts.  The first tool
that needs the session opens it; if that fails, the next one tries again.
-/

namespace CallAtlas.Tools

structure Argument where
  name : String
  kind : String
  description : String
  choices : List String := []
  standard : Option String := none
  isRequired : Bool := false
deriving Repr, DecidableEq, Inhabited

structure Tool where
  name : String
  description : String
  arguments : List Argument := []
deriving Repr, DecidableEq, Inhabited

def graphTool : Tool :=
  { name := "codemap_graph"
    description :=
      "Build the call graph reachable from a function, given as module, function name and arity. "
        ++ "Returns text, a Mermaid diagram or JSON."
    arguments := [
      { name := "module", kind := "string", isRequired := true
        description := "Module of the start function, e.g. MyApp.Server" },
      { name := "function", kind := "string", isRequired := true
        description := "Name of the start function" },
      { name := "arity", kind := "integer", isRequired := true
        description := "Arity of the start function" },
      { name := "format", kind := "string", choices := ["text", "mermaid", "json"]
        standard := some "json", description := "Output format (default: json)" },
      { name := "max_nodes", kind := "integer"
        description := "Stop after this many nodes (optional)" },
      { name := "max_edges", kind := "integer"
        description := "Stop after this many edges (optional)" }] }

def blockTool : Tool :=
  { name := "codemap_block"
    description :=
      "Get the normalized block of a module: its function clauses, their arities and every call "
        ++ "each clause makes."
    arguments := [
      { name := "module", kind := "string", isRequired := true
        description := "Module name, e.g. MyApp.Server" }] }

def modulesTool : Tool :=
  { name := "codemap_modules", description := "List all normalized modules." }

/-- Scans the source again. -/
def rescanTool : Tool :=
  { name := "codemap_rescan"
    description := "Re-read the source directory and normalize every module again." }

def all : List Tool := [graphTool, blockTool, modulesTool, rescanTool]

/-- The description of an argument as a data value. -/
def Argument.schema (argument : Argument) : Json :=
  let choices : List (Text × Json) :=
    if argument.choices.isEmpty then []
    else [("enum", .array (argument.choices.map fun choice => .text (.plain choice)))]
  let standard : List (Text × Json) :=
    match argument.standard with
    | some value => [("default", .text value)]
    | none => []
  let kind : List (Text × Json) := [("type", .text argument.kind)]
  let description : List (Text × Json) := [("description", .text argument.description)]
  .object (kind ++ choices ++ description ++ standard)

/-- The arguments of a tool as a data value. -/
def Tool.schema (tool : Tool) : Json :=
  let properties : List (Text × Json) :=
    tool.arguments.map fun argument => (argument.name, argument.schema)
  let required : List Json :=
    (tool.arguments.filter Argument.isRequired).map fun argument => .text argument.name
  let closing : List (Text × Json) :=
    if required.isEmpty then [] else [("required", .array required)]
  .object (("type", .text "object") :: ("properties", .object properties) :: closing)

inductive ToolError where
  | missing (argument : String)
  | notName (kind : String)
  | settings (cause : SettingsFault)
  | rescan (cause : RescanError)
  | noBlock (module : Text)
  | build (cause : BuildError)
  | unwritable (cause : WriteFault)
deriving Repr, DecidableEq, Inhabited

namespace ToolError

/-- Whether the error is an answer of the program.  Any other is a failure of the tool. -/
def isAnswer : ToolError → Bool
  | .missing _ | .notName _ | .settings _ | .unwritable _ => false
  | .rescan .closed => false
  | .rescan (.failed cause) => cause.isReported
  | .noBlock _ | .build _ => true

/-- The text of an error; `help` is the address of the pages on settings. -/
def message (help : String) : ToolError → Text
  | .missing argument => Quoted.encode argument
  | .notName kind => "unhashable type: '" ++ kind ++ "'"
  | .settings cause => cause.message help
  | .rescan cause => cause.message
  | .noBlock module => "Module '" ++ module ++ "' not found"
  | .build cause => cause.message
  | .unwritable cause => cause.message

end ToolError

/-- What the tools share: the working folder and the environment, the settings once they were read,
the session once it is open, and the address of the pages on settings. -/
structure Desk where
  folder : Path := []
  environment : List (Text × Text) := []
  settings : Option Settings := none
  session : Option Session := none
  help : String := ""
deriving Inhabited

/-- The result of a tool, the desk after it, and what was reported. -/
structure Outcome (α : Type) where
  value : Except ToolError α
  desk : Desk
  log : Log := []
deriving Inhabited

/-- The settings of the desk.  They are read once. -/
def Desk.readSettings (desk : Desk) (workplace : Workplace) :
    Except SettingsFault Settings :=
  match desk.settings with
  | some settings => .ok settings
  | none => workplace.settings

/-- The dumps in the folder that the settings name. -/
def dumpsFor (workplace : Workplace) (settings : Settings) : Dumps :=
  let text := settings.sourceDir
  Dumps.ofFolder ((workplace.locate? text).getD (workplace.startOf text ++ Path.ofText text)) text []

/-- The open session.  A new one is scanned at once and kept only if that succeeds. -/
def Desk.open [Depths] (desk : Desk) (files : FileTree) : Outcome Session :=
  let workplace : Workplace := { folder := desk.folder, files, environment := desk.environment }
  match desk.session with
  | some session => { value := .ok session, desk }
  | none =>
    match desk.readSettings workplace with
    | .error cause => { value := .error (.settings cause), desk }
    | .ok settings =>
      let desk := { desk with settings := some settings }
      let scanned := Session.rescan { settings, source := .dumps (dumpsFor workplace settings) } files
      match scanned.value with
      | .error cause => { value := .error (.rescan cause), desk, log := scanned.log }
      | .ok _ =>
        { value := .ok scanned.session
          desk := { desk with session := some scanned.session }
          log := scanned.log }

/-- Builds a graph and writes it in the format asked for; JSON for any other word. -/
def runGraph [Depths] (desk : Desk) (files : FileTree) (module function arity : Json)
    (arguments : Json) : Outcome Json :=
  let opened := desk.open files
  match opened.value with
  | .error cause => { value := .error cause, desk := opened.desk, log := opened.log }
  | .ok session =>
    let budget (name : String) : Option Budget :=
      Budget.ofJson ((arguments.field? name).getD .null)
    let built := session.graph module.toLiteral function.toLiteral arity.toLiteral
      { nodes := budget "max_nodes", edges := budget "max_edges" } none
    let log := opened.log ++ built.log
    match built.graph with
    | .error cause => { value := .error (.build cause), desk := opened.desk, log }
    | .ok graph =>
      let value : Except WriteFault Json :=
        match arguments.field? "format" with
        | some (.text (.plain "text")) =>
          WriteFault.guard graph.textFault?
            (.object [("graph", .text graph.text), ("truncated", .bool graph.truncated)])
        | some (.text (.plain "mermaid")) =>
          WriteFault.guard graph.diagramFault?
            (.object [("diagram", .text graph.diagram), ("truncated", .bool graph.truncated)])
        | _ => graph.value
      { value := value.mapError .unwritable, desk := opened.desk, log }

/-- Shows a block.  Arrays and objects cannot be names; any other value that is no text names no
module. -/
def runBlock [Depths] (desk : Desk) (files : FileTree) (module : Json) : Outcome Json :=
  let opened := desk.open files
  match opened.value with
  | .error cause => { value := .error cause, desk := opened.desk, log := opened.log }
  | .ok session =>
    let value : Except ToolError Json :=
      match module with
      | .array _ | .object _ => .error (.notName module.toLiteral.kind)
      | .text name =>
        match session.block name with
        | .ok block => block.value.mapError .unwritable
        | .error missing => .error (.noBlock missing.module)
      | value => .error (.noBlock value.toLiteral.display)
    { value, desk := opened.desk, log := opened.log }

def runModules [Depths] (desk : Desk) (files : FileTree) : Outcome Json :=
  let opened := desk.open files
  { value := opened.value.map fun session =>
      .object [("modules", .array (session.store.names.map .text))]
    desk := opened.desk
    log := opened.log }

/-- Scans again. -/
def runRescan [Depths] (desk : Desk) (files : FileTree) : Outcome Json :=
  let opened := desk.open files
  match opened.value with
  | .error cause => { value := .error cause, desk := opened.desk, log := opened.log }
  | .ok session =>
    let scanned := session.rescanLater files
    { value :=
        match scanned.value with
        | .ok rescanned => .ok (.object rescanned.stats.fields)
        | .error cause => .error (.rescan cause)
      desk := { opened.desk with session := some scanned.session }
      log := opened.log ++ scanned.log }

def run [Depths] (desk : Desk) (files : FileTree) (name : Text) (arguments : Json) : Outcome Json :=
  let refuse (argument : String) : Outcome Json := { value := .error (.missing argument), desk }
  if name = graphTool.name then
    match arguments.field? "module", arguments.field? "function", arguments.field? "arity" with
    | none, _, _ => refuse "module"
    | _, none, _ => refuse "function"
    | _, _, none => refuse "arity"
    | some module, some function, some arity =>
      runGraph desk files module function arity arguments
  else if name = blockTool.name then
    match arguments.field? "module" with
    | none => refuse "module"
    | some module => runBlock desk files module
  else if name = modulesTool.name then runModules desk files
  else if name = rescanTool.name then runRescan desk files
  else { value := .ok (.object [("error", .text ("Unknown tool: " ++ name))]), desk }

/-- A tool's answer as text, the desk after it, and what was reported. -/
structure Answer where
  text : String
  desk : Desk
  log : Log := []
deriving Inhabited

/-- Answers a call.  Results are laid out on lines, errors on one line. -/
def answer [Depths] (desk : Desk) (files : FileTree) (name : Text) (arguments : Json) : Answer :=
  let outcome := run desk files name arguments
  match outcome.value with
  | .ok result => { text := result.render (.lines 2), desk := outcome.desk, log := outcome.log }
  | .error cause =>
    let failure : Log :=
      if cause.isAnswer then [] else [⟨.error, .tools, "Tool " ++ name ++ " failed"⟩]
    { text := (Json.object [("error", .text (cause.message desk.help))]).render .oneLine
      desk := outcome.desk
      log := outcome.log ++ failure }

end CallAtlas.Tools
