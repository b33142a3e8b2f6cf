import CallAtlas.Text.Basic

/-!
Lists of names in the order of their code points.
-/

namespace CallAtlas

/-- Code point order of texts. -/
def nameLe (a b : Text) : Bool := !b.codes.lex a.codes

def sortNames (names : List Text) : List Text := names.mergeSort nameLe

/-- Code point order of lists of texts, the first difference deciding. -/
def namesLe : List Text → List Text → Bool
  | [], _ => true
  | _ :: _, [] => false
  | a :: as, b :: bs => if a = b then namesLe as bs else nameLe a b

end CallAtlas
