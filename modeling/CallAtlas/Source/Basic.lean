import CallAtlas.Source.Dumps
import CallAtlas.Source.Memory

/-!
Sources of modules: trees in memory, or a folder of dumps.
-/

namespace CallAtlas

/-- Where modules come from. -/
inductive Source where
  | memory (held : Memory)
  | dumps (held : Dumps)
deriving Repr, DecidableEq, Inhabited

namespace Source

/-- The result of asking a source, which may have made its index anew. -/
structure Outcome (α : Type) where
  value : Except SourceFault α
  source : Source
  log : Log := []
deriving Inhabited

def list [Depths] (files : FileTree) : Source → Outcome (List Text)
  | .memory held => { value := .ok held.list, source := .memory held }
  | .dumps held =>
    let listed := held.list files
    { value := listed.value, source := .dumps listed.dumps, log := listed.log }

/-- The definition of a module. -/
def resolve [Depths] (files : FileTree) (module : Text) : Source → Outcome (Option Term)
  | .memory held => { value := .ok (held.resolve module), source := .memory held }
  | .dumps held =>
    let found := held.resolve files module
    { value := found.value, source := .dumps found.dumps, log := found.log }

end Source

end CallAtlas
