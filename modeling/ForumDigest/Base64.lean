namespace ForumDigest.Base64

def letter (n : Nat) : Char :=
  if n < 26 then Char.ofNat (0x41 + n)
  else if n < 52 then Char.ofNat (0x61 + (n - 26))
  else if n < 62 then Char.ofNat (0x30 + (n - 52))
  else if n = 62 then '+' else '/'

def letterValue? (c : Char) : Option Nat :=
  if 'A' ≤ c ∧ c ≤ 'Z' then some (c.toNat - 0x41)
  else if 'a' ≤ c ∧ c ≤ 'z' then some (c.toNat - 0x61 + 26)
  else if '0' ≤ c ∧ c ≤ '9' then some (c.toNat - 0x30 + 52)
  else if c = '+' then some 62
  else if c = '/' then some 63
  else none

def pack (a b c : UInt8) : Nat := a.toNat * 65536 + b.toNat * 256 + c.toNat

def encode : List UInt8 → List Char
  | a :: b :: c :: rest =>
    let n := pack a b c
    letter (n / 262144) :: letter (n / 4096 % 64) :: letter (n / 64 % 64) :: letter (n % 64) ::
      encode rest
  | [a, b] =>
    let n := pack a b 0
    [letter (n / 262144), letter (n / 4096 % 64), letter (n / 64 % 64), '=']
  | [a] =>
    let n := pack a 0 0
    [letter (n / 262144), letter (n / 4096 % 64), '=', '=']
  | [] => []

/-- Reads what `encode` writes: padding stands at the end only, and the bits that it makes
superfluous are zero. -/
def decode? : List Char → Option (List UInt8)
  | [] => some []
  | [w, x, '=', '='] => do
    let n := (← letterValue? w) * 64 + (← letterValue? x)
    if n % 16 = 0 then some [UInt8.ofNat (n / 16)] else none
  | [w, x, y, '='] => do
    let n := (← letterValue? w) * 4096 + (← letterValue? x) * 64 + (← letterValue? y)
    if n % 4 = 0 then some [UInt8.ofNat (n / 1024), UInt8.ofNat (n / 4 % 256)] else none
  | w :: x :: y :: z :: rest => do
    let n := (← letterValue? w) * 262144 + (← letterValue? x) * 4096 + (← letterValue? y) * 64 +
      (← letterValue? z)
    let tail ← decode? rest
    some (UInt8.ofNat (n / 65536) :: UInt8.ofNat (n / 256 % 256) :: UInt8.ofNat (n % 256) :: tail)
  | _ => none

end ForumDigest.Base64
