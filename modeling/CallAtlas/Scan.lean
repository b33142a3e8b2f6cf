import CallAtlas.Log
import CallAtlas.Module.Normal
import CallAtlas.Source.Fault
import CallAtlas.Store

/-!
Scanning: every listed module is looked up, normalized and stored.  A module that fails keeps the
block it had; modules that are no longer listed are removed at the end.
-/

namespace CallAtlas

/-- Why a module could not be scanned. -/
inductive ScanError where
  | source (cause : SourceFault)
  | notProvided (module : Text)
  | shape (cause : NormalError)
  | malformed (module : Text) (cause : NormalError)
deriving Repr, DecidableEq, Inhabited

namespace ScanError

/-- Whether the failure is counted and the scan goes on. -/
def isReported : ScanError → Bool
  | .source cause => cause.isReported
  | _ => true

def message : ScanError → Text
  | .source cause => cause.message
  | .notProvided module => "Module '" ++ module ++ "' is not provided"
  | .shape cause => cause.message
  | .malformed module cause => "Malformed tree for '" ++ module ++ "': " ++ cause.message

/-- The failure of a module whose tree has no block.  A tree that cannot be read to the end, or
shown, is malformed. -/
def ofNormal (module : Text) : NormalError → ScanError
  | .listForm => .malformed module .listForm
  | .tooDeep => .malformed module .tooDeep
  | .unshown cause => .malformed module (.unshown cause)
  | cause => .shape cause

end ScanError

/-- Counts and failures of a scan. -/
structure ScanStats where
  modules : Nat := 0
  functions : Nat := 0
  calls : Nat := 0
  failed : Nat := 0
  removed : Nat := 0
  errors : List Text := []
deriving Repr, DecidableEq, Inhabited

namespace ScanStats

/-- The counts in one line. -/
def summary (stats : ScanStats) : Text :=
  "ScanStats(modules=" ++ toString stats.modules ++ ", functions=" ++ toString stats.functions
    ++ ", calls=" ++ toString stats.calls ++ ", failed=" ++ toString stats.failed ++ ", removed="
    ++ toString stats.removed ++ ", errors=" ++ toString stats.errors.length ++ ")"

/-- The counts and failures as fields of a data value. -/
def fields (stats : ScanStats) : List (Text × Json) := [
  ("modules", .int stats.modules),
  ("functions", .int stats.functions),
  ("calls", .int stats.calls),
  ("failed", .int stats.failed),
  ("removed", .int stats.removed),
  ("errors", .array (stats.errors.map .text))]

end ScanStats

/-- What became of one listed module. -/
abbrev ScanResult := Except ScanError Normal

/-- Normalizes what a look-up of a module gave. -/
def scanTree [Depths] (module : Text) (found : Except SourceFault (Option Term)) : ScanResult :=
  match found with
  | .error cause => .error (.source cause)
  | .ok none => .error (.notProvided module)
  | .ok (some tree) => (Normal.ofTree tree (some module)).mapError (ScanError.ofNormal module)

/-- What is reported for a module that was stored. -/
def storedLog (module : Text) (normal : Normal) : Log := [
  ⟨.debug, .normalizer,
    "Normalized " ++ normal.block.name ++ ": " ++ toString normal.block.clauses.length
      ++ " clauses, " ++ toString normal.aliases.size ++ " aliases"⟩,
  ⟨.debug, .scanner, "Normalized module " ++ module⟩]

/-- The listed modules so far, the store they left, and the failure that ended the scan early. -/
structure Scan where
  store : Store
  results : List (Text × ScanResult) := []
  fault : Option ScanError := none
deriving Inhabited

namespace Scan

/-- Scans the listed modules one after the other. -/
def run [Depths] (lookup : Text → Except SourceFault (Option Term)) : List Text → Store → Scan
  | [], store => { store }
  | module :: rest, store =>
    match scanTree module (lookup module) with
    | .ok normal =>
      let scan := run lookup rest (store.put module normal.block)
      { scan with results := (module, .ok normal) :: scan.results }
    | .error cause =>
      if cause.isReported then
        let scan := run lookup rest store
        { scan with results := (module, .error cause) :: scan.results }
      else { store, fault := some cause }

/-- The stored modules that are not listed, in code point order. -/
def unlisted (store : Store) (listed : List Text) : List Text :=
  store.names.filter fun module => decide (module ∉ listed)

/-- The store without modules that are not listed. -/
def prune (store : Store) (listed : List Text) : Store :=
  (unlisted store listed).foldl Store.remove store

/-- The statistics of a scan that removed so many modules. -/
def stats (scan : Scan) (removed : Nat) : ScanStats :=
  let blocks := scan.results.filterMap fun (_, result) => result.toOption.map Normal.block
  let errors := scan.results.filterMap fun (module, result) =>
    match result with
    | .error cause => some (module ++ ": " ++ cause.message)
    | .ok _ => none
  { modules := blocks.length
    functions := blocks.foldr (fun block count => block.clauses.length + count) 0
    calls := blocks.foldr (fun block count => block.callCount + count) 0
    failed := errors.length
    removed
    errors }

/-- What is reported for one listed module. -/
def resultLog (module : Text) : ScanResult → Log
  | .ok normal => storedLog module normal
  | .error cause =>
    [⟨.warning, .scanner, "Failed to normalize " ++ module ++ ": " ++ cause.message⟩]

/-- What is reported for all listed modules. -/
def log (scan : Scan) : Log := scan.results.flatMap fun (module, result) => resultLog module result

/-- Each module scanned, with its number and the number of all listed modules. -/
def progress (scan : Scan) (total : Nat) : List (Text × Nat × Nat) :=
  scan.results.zipIdx.map fun ((module, _), i) => (module, i + 1, total)

end Scan

/-- A finished scan: the store, what was reported, and the statistics or the failure. -/
structure Rescan where
  store : Store
  outcome : Except ScanError ScanStats
  log : Log := []
  progress : List (Text × Nat × Nat) := []
deriving Inhabited

/-- Scans a listing into a store. -/
def Store.rescan [Depths] (store : Store) (listed : List Text)
    (lookup : Text → Except SourceFault (Option Term)) : Rescan :=
  let scan := Scan.run lookup listed store
  let opening : LogRecord :=
    ⟨.info, .scanner, "Scanning " ++ toString listed.length ++ " modules"⟩
  let progress := scan.progress listed.length
  match scan.fault with
  | some cause =>
    { store := scan.store, outcome := .error cause, log := opening :: scan.log, progress }
  | none =>
    let removed := Scan.unlisted scan.store listed
    let stats := scan.stats removed.length
    let removals : Log := removed.map fun module =>
      ⟨.debug, .scanner, "Removed " ++ module ++ " (no longer provided)"⟩
    let closing : LogRecord := ⟨.info, .scanner, "Scan complete: " ++ stats.summary⟩
    { store := Scan.prune scan.store listed
      outcome := .ok stats
      log := opening :: scan.log ++ removals ++ [closing]
      progress }

end CallAtlas
