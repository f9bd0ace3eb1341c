namespace ForumDigest.Text

def hexDigitValue (c : Char) : Nat := if c.isDigit then c.toNat - 0x30 else c.toNat - 0x57

def hexNumber (cs : List Char) : Nat := cs.foldl (fun n c => n * 16 + hexDigitValue c) 0

def tableWords (text : String) : List (List Char) :=
  (text.toList.splitOnP fun c => c == ' ' || c == '\n').filter (· ≠ [])

def tableNumbers (separator : Char) (text : String) : List (List Nat) :=
  (tableWords text).map fun word => (word.splitOn separator).map hexNumber

/-- Characters by the ranges of their code points. As a text these are hexadecimal numbers and
ranges between blanks, in ascending order. -/
structure CharSet where
  ranges : List (Nat × Nat)

def CharSet.ofText (text : String) : CharSet :=
  ⟨(tableNumbers '-' text).filterMap fun
    | [n] => some (n, n)
    | [low, high] => some (low, high)
    | _ => none⟩

def CharSet.contains (s : CharSet) (c : Char) : Bool :=
  s.ranges.any fun (low, high) => low ≤ c.toNat && c.toNat ≤ high

end ForumDigest.Text
