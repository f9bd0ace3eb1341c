namespace ForumDigest.Url.Punycode

def digit (d : Nat) : Char := Char.ofNat (if d < 26 then 0x61 + d else 0x16 + d)

def digitValue? (c : Char) : Option Nat :=
  if 'a' ≤ c ∧ c ≤ 'z' then some (c.toNat - 0x61)
  else if 'A' ≤ c ∧ c ≤ 'Z' then some (c.toNat - 0x41)
  else if c.isDigit then some (c.toNat - 0x16)
  else none

def threshold (bias k : Nat) : Nat := min 26 (max 1 (k - bias))

/-- How often `delta` has to be divided by 35 to fall to 455, and what is left then. -/
def damped (delta : Nat) : Nat × Nat :=
  if 455 < delta then
    let (times, left) := damped (delta / 35)
    (times + 1, left)
  else (0, delta)
termination_by delta

def adapt (delta points : Nat) (isFirst : Bool) : Nat :=
  let scaled := if isFirst then delta / 700 else delta / 2
  let (times, left) := damped (scaled + scaled / points)
  36 * times + 36 * left / (left + 38)

def encodeNumber (bias k q : Nat) : List Char :=
  let t := threshold bias k
  if q < t then [digit q]
  else digit (t + (q - t) % (36 - t)) :: encodeNumber bias (k + 36) ((q - t) / (36 - t))
termination_by q
decreasing_by
  have h : 1 ≤ threshold bias k := by unfold threshold; omega
  exact Nat.lt_of_le_of_lt (Nat.div_le_self _ _) (by omega)

structure Encoding where
  out : List Char
  delta : Nat
  bias : Nat
  done : Nat

def Encoding.meet (basic m : Nat) (e : Encoding) (c : Char) : Encoding :=
  if c.toNat < m then { e with delta := e.delta + 1 }
  else if c.toNat = m then
    { out := e.out ++ encodeNumber e.bias 36 e.delta
      delta := 0
      bias := adapt e.delta (e.done + 1) (e.done = basic)
      done := e.done + 1 }
  else e

def encodeCodes (cs : List Char) (basic : Nat) :
    (codes : List Nat) → (n : Nat) → Encoding → Encoding
  | [], _, e => e
  | m :: codes, n, e =>
    let e' := cs.foldl (Encoding.meet basic m)
      { e with delta := e.delta + (m - n) * (e.done + 1) }
    encodeCodes cs basic codes (m + 1) { e' with delta := e'.delta + 1 }

def insertCode (m : Nat) : List Nat → List Nat
  | [] => [m]
  | k :: ks => if m < k then m :: k :: ks else if m = k then k :: ks else k :: insertCode m ks

/-- The ASCII characters come first, in order. Behind the last hyphen stand the others, each as the
number of steps from the one before it. -/
def encode (cs : List Char) : List Char :=
  let basic := cs.filter (·.toNat < 128)
  let codes := ((cs.filter (128 ≤ ·.toNat)).map Char.toNat).foldr insertCode []
  let e := encodeCodes cs basic.length codes 128 ⟨[], 0, 72, basic.length⟩
  basic ++ (if basic.isEmpty then [] else ['-']) ++ e.out

def decodeNumber (bias : Nat) : (k weight i : Nat) → List Char → Option (Nat × List Char)
  | _, _, _, [] => none
  | k, weight, i, c :: cs => do
    let d ← digitValue? c
    let t := threshold bias k
    if d < t then some (i + d * weight, cs)
    else decodeNumber bias (k + 36) (weight * (36 - t)) (i + d * weight) cs

def decodeCodes : (fuel bias n i : Nat) → (out cs : List Char) → Option (List Char)
  | _, _, _, _, out, [] => some out
  | 0, _, _, _, _, _ => none
  | fuel + 1, bias, n, i, out, cs => do
    let (j, rest) ← decodeNumber bias 36 1 i cs
    let points := out.length + 1
    let m := n + j / points
    if m.isValidChar then
      decodeCodes fuel (adapt (j - i) points (i = 0)) m (j % points + 1)
        (out.insertIdx (j % points) (Char.ofNat m)) rest
    else none

def decode? (cs : List Char) : Option (List Char) :=
  let tail := (cs.reverse.takeWhile (· ≠ '-')).reverse
  let basic := ((cs.reverse.dropWhile (· ≠ '-')).drop 1).reverse
  if basic.any (128 ≤ ·.toNat) then none else decodeCodes tail.length 72 128 0 basic tail

end ForumDigest.Url.Punycode
