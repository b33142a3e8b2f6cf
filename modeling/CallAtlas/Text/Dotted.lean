import CallAtlas.Text.Pieces

/-!
Dotted names: a module name is a list of segments joined by dots.
-/

namespace CallAtlas.Dotted

/-- The segments of a dotted name.  There is always at least one, which may be empty. -/
def segments (name : Text) : List Text := name.pieces '.'

def join (segments : List Text) : Text := Text.joined "." segments

end CallAtlas.Dotted
