import CallAtlas.Text.LetterCase
import CallAtlas.Text.Quoted

/-!
What a run reports besides its result: records with a level, the part that speaks and a message.
-/

namespace CallAtlas

/-- How much a record matters. -/
inductive Level where
  | debug
  | info
  | warning
  | error
deriving Repr, DecidableEq, Inhabited

namespace Level

def name : Level → String
  | .debug => "DEBUG"
  | .info => "INFO"
  | .warning => "WARNING"
  | .error => "ERROR"

def severity : Level → Nat
  | .debug => 10
  | .info => 20
  | .warning => 30
  | .error => 40

end Level

/-- The part of the program that speaks. -/
inductive Channel where
  | builder
  | scanner
  | dumps
  | normalizer
  | session
  | tools
deriving Repr, DecidableEq, Inhabited

/-- The name under which all channels stand. -/
def channelRoot : String := "codemap"

def Channel.name : Channel → String
  | .builder => "codemap.core.graph.builder"
  | .scanner => "codemap.core.scanner"
  | .dumps => "codemap.sources.json_dump"
  | .normalizer => "codemap.languages.elixir"
  | .session => "codemap.core.codemap"
  | .tools => "codemap.mcp.server"

/-- A channel name, put under the root unless it stands there already; the root for no name. -/
def channelName (name : Option Text) : Text :=
  match name with
  | none => channelRoot
  | some name =>
    if name = channelRoot ∨ name.startsWith (channelRoot ++ ".") then name
    else channelRoot ++ "." ++ name

structure LogRecord where
  level : Level
  channel : Channel
  message : Text
deriving Repr, DecidableEq, Inhabited

abbrev Log := List LogRecord

def Log.atLeast (log : Log) (severity : Nat) : Log :=
  log.filter fun entry => severity ≤ entry.level.severity

structure UnknownLevel where
  meaning : String
deriving Repr, DecidableEq, Inhabited

def UnknownLevel.message (fault : UnknownLevel) : String :=
  "Unknown level: " ++ Quoted.encode fault.meaning

def severityNames : List (Text × Nat) := [
  ("CRITICAL", 50), ("FATAL", 50), ("ERROR", 40), ("WARNING", 30), ("WARN", 30), ("INFO", 20),
  ("DEBUG", 10), ("NOTSET", 0)]

/-- The severity that a level name asks for, in any case.  A name without meaning asks for warnings;
the name of the record format means a text that is no level. -/
def severityOf (name : Text) : Except UnknownLevel Nat :=
  let name := name.upperCase
  if name = "BASIC_FORMAT" then .error ⟨"%(levelname)s:%(name)s:%(message)s"⟩
  else .ok ((severityNames.lookup name).getD Level.warning.severity)

/-- The least severity that is recorded: with no level set, that of warnings. -/
def effectiveSeverity (severity : Nat) : Nat :=
  if severity = 0 then Level.warning.severity else severity

end CallAtlas
