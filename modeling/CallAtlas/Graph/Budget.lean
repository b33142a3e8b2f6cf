import CallAtlas.Json.Basic

/-!
Budgets: how many nodes or edges a graph may hold.
-/

namespace CallAtlas

/-- A budget as it was asked for.  What is no number cannot be compared with a count. -/
inductive Budget where
  | count (limit : Int)
  | decimal (limit : Decimal)
  | flag (limit : Bool)
  | incomparable (kind : String)
deriving Repr, DecidableEq, Inhabited

namespace Budget

/-- The budget that a data value asks for; `null` asks for none. -/
def ofJson : Json → Option Budget
  | .null => none
  | .int limit => some (.count limit)
  | .decimal limit => some (.decimal limit)
  | .bool limit => some (.flag limit)
  | value => some (.incomparable value.toLiteral.kind)

/-- Whether a count has reached the budget; nothing if they cannot be compared.  A flag counts as
one or zero. -/
def reachedBy (count : Nat) : Budget → Except String Bool
  | .count limit => .ok (decide (limit ≤ count))
  | .decimal limit => .ok (limit.atMost count)
  | .flag limit => .ok (decide ((if limit then 1 else 0) ≤ count))
  | .incomparable kind => .error kind

def text : Budget → String
  | .count limit => toString limit
  | .decimal limit => limit.text
  | .flag limit => if limit then "True" else "False"
  | .incomparable kind => kind

end Budget

end CallAtlas
