/-!
How many digits a whole number may have where it is read from a text or written into one.
-/

namespace CallAtlas.Numeral

/-- The most digits that a number in a text may have. -/
def maxDigits : Nat := 4300

/-- The least number with more digits. -/
def bound : Nat := Nat.pow 10 maxDigits

/-- Whether a number has too many digits to be written. -/
def isOversized (value : Int) : Bool := bound ≤ value.natAbs

/-- The end of the message for a number with too many digits. -/
def advice : String := "; use sys.set_int_max_str_digits() to increase the limit"

/-- The start of the message for a number with too many digits. -/
def limitText : String :=
  "Exceeds the limit (" ++ toString maxDigits ++ " digits) for integer string conversion"

/-- What is said of a number that cannot be written. -/
def writeMessage : String := limitText ++ advice

/-- What is said of a number that cannot be read, which has so many digits. -/
def readMessage (digits : Nat) : String :=
  limitText ++ ": value has " ++ toString digits ++ " digits" ++ advice

end CallAtlas.Numeral
