import CallAtlas.Term.Coding
import CallAtlas.Text.Numeral

/-!
What can go wrong when modules are read from their source.
-/

namespace CallAtlas

/-- A fault of a source.  Most are reported for the file or module at hand; an oversized number and a
search without end stop the whole operation. -/
inductive SourceFault where
  | unreadable (file : Text)
  | malformed (file : Text)
  | tooDeep (file : Text)
  | unexpectedObject (cause : Term.UnexpectedObject)
  | noFolder (folder : Text)
  | oversized (digits : Nat)
  | endless
deriving Repr, DecidableEq, Inhabited

namespace SourceFault

/-- Whether the fault is reported and the work goes on. -/
def isReported : SourceFault → Bool
  | .oversized _ | .endless => false
  | _ => true

/-- The message of a fault.  What the system or the reader of a text says about an unreadable or
malformed file is left out: the message ends with the name of the file. -/
def message : SourceFault → Text
  | .unreadable file => "Cannot read " ++ file
  | .malformed file => "Invalid JSON in " ++ file
  | .tooDeep file => "Tree in " ++ file ++ " is nested too deeply"
  | .unexpectedObject cause => cause.message
  | .noFolder folder => "Source directory not found: " ++ folder
  | .oversized digits => Numeral.readMessage digits
  | .endless => "maximum recursion depth exceeded"

end SourceFault

end CallAtlas
