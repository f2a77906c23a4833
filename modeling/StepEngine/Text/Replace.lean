/-!
# Replacing a text

* `Text.replace` : a text in which each occurrence of a piece, from the left and without overlap, is
  replaced.
-/

namespace StepEngine.Text

/-- The characters in which `piece` is replaced, after `skip` characters that belong to an
occurrence already replaced. -/
def replaceFrom (piece replacement : List Char) : (skip : Nat) → List Char → List Char
  | _, [] => []
  | skip + 1, _ :: rest => replaceFrom piece replacement skip rest
  | 0, c :: rest =>
    if piece.isPrefixOf (c :: rest) then
      replacement ++ replaceFrom piece replacement (piece.length - 1) rest
    else c :: replaceFrom piece replacement 0 rest

def replace (s piece replacement : String) : String :=
  String.ofList (replaceFrom piece.toList replacement.toList 0 s.toList)

end StepEngine.Text
