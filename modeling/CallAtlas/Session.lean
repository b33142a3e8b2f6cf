import CallAtlas.Graph.Search
import CallAtlas.Scan
import CallAtlas.Settings
import CallAtlas.Source.Basic

/-!
Sessions: a source, the store that is filled from it, and the settings for graphs.  Files change
outside of a session, so every operation is given them as they are at that time.
-/

namespace CallAtlas

structure Session where
  settings : Settings := {}
  source : Source
  store : Store := .empty
  isClosed : Bool := false
deriving Inhabited

/-- Why a rescan gave no statistics. -/
inductive RescanError where
  | closed
  | failed (cause : ScanError)
deriving Repr, DecidableEq, Inhabited

def RescanError.message : RescanError → Text
  | .closed => "Codemap is closed"
  | .failed cause => cause.message

namespace Session

/-- What an operation gave, the session after it, and what was reported. -/
structure Outcome (ε α : Type) where
  value : Except ε α
  session : Session
  log : Log := []
deriving Inhabited

/-- The statistics of a rescan and its progress: each module, its number and the number of all. -/
structure Rescanned where
  stats : ScanStats
  progress : List (Text × Nat × Nat)
deriving Repr, DecidableEq, Inhabited

/-- Lists the source again and scans what it lists.  If the listing fails nothing changes. -/
def rescan [Depths] (session : Session) (files : FileTree) : Outcome RescanError Rescanned :=
  if session.isClosed then { value := .error .closed, session }
  else
    let listed := session.source.list files
    let session := { session with source := listed.source }
    match listed.value with
    | .error fault => { value := .error (.failed (.source fault)), session, log := listed.log }
    | .ok modules =>
      let scanned := session.store.rescan modules fun module =>
        (session.source.resolve files module).value
      { value :=
          match scanned.outcome with
          | .ok stats => .ok ⟨stats, scanned.progress⟩
          | .error cause => .error (.failed cause)
        session := { session with store := scanned.store }
        log := listed.log ++ scanned.log }

/-- Rescans as a task of its own. -/
def rescanLater [Depths] (session : Session) (files : FileTree) : Outcome RescanError Rescanned :=
  let outcome := session.rescan files
  if session.isClosed then outcome
  else { outcome with log := ⟨.debug, .session, "Scheduling rescan"⟩ :: outcome.log }

/-- Scans one module, also in a closed session. -/
def scanModule [Depths] (session : Session) (files : FileTree) (module : Text) :
    Outcome ScanError Block :=
  let found := session.source.resolve files module
  let session := { session with source := found.source }
  match scanTree module found.value with
  | .error cause => { value := .error cause, session, log := found.log }
  | .ok normal =>
    { value := .ok normal.block
      session := { session with store := session.store.put module normal.block }
      log := found.log ++ storedLog module normal }

def listSource [Depths] (session : Session) (files : FileTree) : Outcome SourceFault (List Text) :=
  let listed := session.source.list files
  { value := listed.value, session := { session with source := listed.source }, log := listed.log }

def resolve [Depths] (session : Session) (files : FileTree) (module : Text) :
    Outcome SourceFault (Option Term) :=
  let found := session.source.resolve files module
  { value := found.value, session := { session with source := found.source }, log := found.log }

def block (session : Session) (module : Text) : Except ModuleMissing Block :=
  session.store.lookup module

/-- A graph and what was reported while it was built. -/
structure Built where
  graph : Except BuildError Graph
  log : Log := []
deriving Inhabited

/-- The budgets of a build: its own, or those of the settings. -/
def limits (session : Session) (own : Limits) : Limits :=
  { nodes := own.nodes.or (session.settings.maxNodes.map .count)
    edges := own.edges.or (session.settings.maxEdges.map .count) }

/-- The call graph from a start, which is checked first. -/
def graph (session : Session) (module function arity : Literal) (own : Limits)
    (cancelAfter : Option Nat) : Built :=
  match Ref.ofParts module function arity with
  | .error cause => { graph := .error (.invalid cause) }
  | .ok start =>
    let resolver := session.settings.resolver
    let limits := session.limits own
    { graph := resolver.build session.store limits cancelAfter start
      log := resolver.buildLog session.store limits cancelAfter start }

def withMemory (session : Session) (change : Memory → Memory) : Session :=
  match session.source with
  | .memory memory => { session with source := .memory (change memory) }
  | .dumps _ => session

/-- Ends a session: it takes no more rescans. -/
def close (session : Session) : Session := { session with isClosed := true }

end Session

end CallAtlas
