/-!
How deep a value may be nested before an operation that recurses on it runs out of stack.  The
numbers belong to the machine, so everything that depends on them takes them as a parameter.
-/

namespace CallAtlas

/-- The deepest nesting of nodes whose calls can be collected, of arrays and objects that can be
read from a text, and of lists and tuples that a message can show. -/
class Depths where
  collected : Nat
  read : Nat
  shown : Nat

/-- Depths that a common stack has room for. -/
instance Depths.common : Depths := ⟨2000, 2000, 2000⟩

end CallAtlas
