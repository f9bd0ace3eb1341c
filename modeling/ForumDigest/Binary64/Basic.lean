namespace ForumDigest

/-- A double-precision number by its bits, so that each NaN and both zeros stay apart. -/
structure Binary64 where
  bits : UInt64
  deriving DecidableEq, Repr

namespace Binary64

def zero : Binary64 := ⟨0⟩

instance : Inhabited Binary64 := ⟨zero⟩

def toFloat (x : Binary64) : Float := Float.ofBits x.bits

def ofFloat (f : Float) : Binary64 := ⟨f.toBits⟩

def isNegative (x : Binary64) : Bool := 0x8000000000000000 ≤ x.bits

def magnitude (x : Binary64) : Nat := x.bits.toNat % 0x8000000000000000

def isFinite (x : Binary64) : Bool := x.magnitude < 0x7FF0000000000000

def isNaN (x : Binary64) : Bool := 0x7FF0000000000000 < x.magnitude

/-- The place in the total order: negative NaNs, negative numbers, the two zeros, positive numbers,
positive NaNs. -/
def rank (x : Binary64) : Int := if x.isNegative then -1 - (x.magnitude : Int) else x.magnitude

/-- The whole number next to a finite one toward zero, within 64 bits with a sign; a NaN counts as
zero. -/
def truncated (x : Binary64) : Int :=
  if x.isNaN then 0 else x.toFloat.toInt64.toInt

end Binary64

end ForumDigest
