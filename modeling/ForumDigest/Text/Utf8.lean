namespace ForumDigest.Text.Utf8

def encode (cs : List Char) : List UInt8 := cs.flatMap String.utf8EncodeChar

/-- A character of several bytes that is partly read: the bits so far, how many bytes are still to
come, and the bounds of the next one. -/
structure Pending where
  value : Nat
  left : Nat
  low : Nat
  high : Nat

inductive Lead where
  | whole (c : Char)
  | opens (p : Pending)
  | stray

def lead (b : UInt8) : Lead :=
  let n := b.toNat
  if n < 0x80 then .whole (Char.ofNat n)
  else if n < 0xC2 then .stray
  else if n < 0xE0 then .opens ⟨n - 0xC0, 1, 0x80, 0xBF⟩
  else if n == 0xE0 then .opens ⟨0, 2, 0xA0, 0xBF⟩
  else if n == 0xED then .opens ⟨0xD, 2, 0x80, 0x9F⟩
  else if n < 0xF0 then .opens ⟨n - 0xE0, 2, 0x80, 0xBF⟩
  else if n == 0xF0 then .opens ⟨0, 3, 0x90, 0xBF⟩
  else if n < 0xF4 then .opens ⟨n - 0xF0, 3, 0x80, 0xBF⟩
  else if n == 0xF4 then .opens ⟨4, 3, 0x80, 0x8F⟩
  else .stray

/-- The characters of a byte text. `none` marks a gap: a byte that begins no character, or a
character that is begun and not ended, however many of its bytes are there. -/
def scan : Option Pending → List UInt8 → List (Option Char)
  | none, [] => []
  | some _, [] => [none]
  | none, b :: bs =>
    match lead b with
    | .whole c => some c :: scan none bs
    | .opens p => scan (some p) bs
    | .stray => none :: scan none bs
  | some p, b :: bs =>
    if p.low ≤ b.toNat ∧ b.toNat ≤ p.high then
      let value := p.value * 64 + (b.toNat - 0x80)
      if p.left ≤ 1 then some (Char.ofNat value) :: scan none bs
      else scan (some ⟨value, p.left - 1, 0x80, 0xBF⟩) bs
    else
      none :: match lead b with
        | .whole c => some c :: scan none bs
        | .opens p => scan (some p) bs
        | .stray => none :: scan none bs

def decode? (bs : List UInt8) : Option (List Char) := (scan none bs).mapM id

def decodeLossy (bs : List UInt8) : List Char := (scan none bs).map (·.getD '\uFFFD')

end ForumDigest.Text.Utf8
