namespace ForumDigest.Text

/-- Copies the text with each occurrence of `pattern` replaced; the first `skip` characters belong
to an occurrence that was already replaced and are left out. -/
def substituteFrom (pattern value : List Char) : (skip : Nat) → List Char → List Char
  | _, [] => []
  | skip + 1, _ :: cs => substituteFrom pattern value skip cs
  | 0, c :: cs =>
    if pattern.isPrefixOf (c :: cs) then
      value ++ substituteFrom pattern value (pattern.length - 1) cs
    else
      c :: substituteFrom pattern value 0 cs

/-- Replaces every occurrence of a pattern that is not empty, from left to right and without
overlaps. A value that was put in is not searched again. -/
def substitute (pattern value cs : List Char) : List Char := substituteFrom pattern value 0 cs

def replaced (s pattern value : String) : String :=
  String.ofList (substitute pattern.toList value.toList s.toList)

end ForumDigest.Text
