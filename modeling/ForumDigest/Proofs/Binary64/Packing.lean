import ForumDigest.Binary64.Basic
import ForumDigest.Proofs.Binary64.Order
import ForumDigest.Proofs.Binary64.Rounding

open Float.Model Float.Model.UnpackedFloat

namespace ForumDigest.Binary64

def infinite : ℕ := 0x7FF0000000000000

def sign (x : Binary64) : Sign := if x.isNegative then .negative else .positive

def ofModel (f : Float.Model) : Binary64 := ⟨f.toBits⟩

theorem toNat_unpackExponent (x : Binary64) :
    (@unpackExponent Format.binary64 x.bits.toBitVec).toNat = x.magnitude / leadingBit := by
  have bound := x.bits.toNat_lt
  simp only [unpackExponent, BitVec.toNat_cast, BitVec.extractLsb_toNat, UInt64.toNat_toBitVec,
    Nat.shiftRight_eq_div_pow]
  unfold magnitude leadingBit
  norm_num
  omega

theorem toNat_unpackMantissa (x : Binary64) :
    (@unpackMantissa Format.binary64 x.bits.toBitVec).toNat = x.magnitude % leadingBit := by
  simp only [unpackMantissa, BitVec.toNat_cast, BitVec.extractLsb_toNat, UInt64.toNat_toBitVec]
  unfold magnitude leadingBit
  norm_num

theorem ofBitVec_unpackSign (x : Binary64) :
    Sign.ofBitVec (@unpackSign Format.binary64 x.bits.toBitVec) = x.sign := by
  have := x.magnitude_lt
  have bit : (@unpackSign Format.binary64 x.bits.toBitVec).toNat =
      if x.isNegative then 1 else 0 := by
    change (x.bits.toBitVec.extractLsb 63 63).toNat = _
    simp only [BitVec.extractLsb_toNat, UInt64.toNat_toBitVec, Nat.shiftRight_eq_div_pow,
      x.bits_toNat]
    norm_num
    split <;> omega
  unfold Sign.ofBitVec sign
  simp only [← BitVec.toNat_inj, bit]
  cases x.isNegative <;> rfl

theorem unpackExponent_eq_iff (x : Binary64) (e : BitVec 11) :
    @unpackExponent Format.binary64 x.bits.toBitVec = e ↔
      x.magnitude / leadingBit = e.toNat := by
  rw [← toNat_unpackExponent, BitVec.toNat_inj]

theorem unpackExponent_eq_all_iff (x : Binary64) :
    @unpackExponent Format.binary64 x.bits.toBitVec = -1#11 ↔ infinite ≤ x.magnitude := by
  have all : (-1#11).toNat = 2047 := by decide
  have := x.magnitude_lt
  rw [unpackExponent_eq_iff, all]
  unfold leadingBit infinite
  omega

theorem unpackMantissa_eq_zero_iff (x : Binary64) :
    @unpackMantissa Format.binary64 x.bits.toBitVec = 0#52 ↔
      x.magnitude % leadingBit = 0 := by
  rw [← toNat_unpackMantissa, ← BitVec.toNat_inj]
  rfl

variable {f : Float.Model}

theorem unpack_of_isNaN (h : (ofModel f).isNaN = true) : f.unpack = .notANumber := by
  rw [isNaN_iff] at h
  have := magnitude_lt (ofModel f)
  have exponent : @unpackExponent Format.binary64 f.toBits.toBitVec = -1#11 :=
    (unpackExponent_eq_all_iff (ofModel f)).mpr h.le
  have mantissa : ¬ @unpackMantissa Format.binary64 f.toBits.toBitVec = 0#52 := by
    refine mt (unpackMantissa_eq_zero_iff (ofModel f)).mp ?_
    unfold leadingBit
    omega
  unfold Float.Model.unpack UnpackedFloat.unpack
  dsimp only
  rw [if_pos exponent, if_neg mantissa]

theorem unpack_of_infinite (h : (ofModel f).magnitude = infinite) :
    f.unpack = .infinity (ofModel f).sign := by
  have exponent : @unpackExponent Format.binary64 f.toBits.toBitVec = -1#11 :=
    (unpackExponent_eq_all_iff (ofModel f)).mpr h.ge
  have mantissa : @unpackMantissa Format.binary64 f.toBits.toBitVec = 0#52 := by
    refine (unpackMantissa_eq_zero_iff (ofModel f)).mpr ?_
    rw [h]
    decide
  unfold Float.Model.unpack UnpackedFloat.unpack
  dsimp only
  rw [if_pos exponent, if_pos mantissa]
  exact congrArg _ (ofBitVec_unpackSign (ofModel f))

section Fields

variable {s : Sign} {n : ℕ} {m : BitVec 52} (mantissa : m.toNat = n % leadingBit)
include mantissa

theorem canonical_subnormal {pos : 0 < m.toNat} (exponent : n / leadingBit = 0) :
    Canonical (.finite s m.toNat (-1074) pos) s n := by
  have steps : n = 0 * leadingBit + m.toNat := by
    rw [mantissa, Nat.zero_mul, Nat.zero_add,
      Nat.mod_eq_of_lt (Nat.lt_of_div_eq_zero (by decide) exponent)]
  exact steps ▸ .finite (.inr rfl) (m.isLt.trans (by decide))

theorem canonical_normal {e : ℤ} {pos : 0 < (1#1 ++ m).toNat} (normal : n / leadingBit ≠ 0)
    (exponent : e = (n / leadingBit : ℕ) - 1075) :
    Canonical (.finite s (1#1 ++ m).toNat e pos) s n := by
  have leading : (1#1 ++ m).toNat = leadingBit + m.toNat := by
    rw [BitVec.toNat_append, ← Nat.shiftLeft_add_eq_or_of_lt m.isLt]
    rfl
  obtain ⟨t, ht⟩ := Nat.exists_eq_succ_of_ne_zero normal
  have steps : n = t * leadingBit + (1#1 ++ m).toNat := by
    rw [leading, mantissa, ← Nat.add_assoc, ← Nat.succ_mul, ← ht]
    exact (Nat.div_add_mod' n leadingBit).symm
  have unit : e = (t : ℤ) - 1074 := by omega
  have led : leadingBit ≤ (1#1 ++ m).toNat := leading ▸ Nat.le_add_right ..
  have bound : (1#1 ++ m).toNat < 2 * leadingBit := by
    rw [leading, Nat.two_mul]
    exact Nat.add_lt_add_left m.isLt _
  subst unit
  exact steps ▸ .finite (.inl led) bound

end Fields

theorem canonical_unpack (h : (ofModel f).isFinite = true) :
    Canonical f.unpack (ofModel f).sign (ofModel f).magnitude := by
  have finite : ¬ @unpackExponent Format.binary64 f.toBits.toBitVec = -1#11 :=
    mt (unpackExponent_eq_all_iff (ofModel f)).mp (isFinite_iff.mp h).not_ge
  have sign : Sign.ofBitVec (@unpackSign Format.binary64 f.toBits.toBitVec) = (ofModel f).sign :=
    ofBitVec_unpackSign (ofModel f)
  have exponent := toNat_unpackExponent (ofModel f)
  have mantissa := toNat_unpackMantissa (ofModel f)
  unfold Float.Model.unpack UnpackedFloat.unpack
  dsimp only
  rw [if_neg finite, sign]
  by_cases subnormal : @unpackExponent Format.binary64 f.toBits.toBitVec = 0#11
  · have least := (unpackExponent_eq_iff (ofModel f) 0#11).mp subnormal
    rw [if_pos subnormal]
    by_cases zero : @unpackMantissa Format.binary64 f.toBits.toBitVec = 0#52
    · have none : (ofModel f).magnitude = 0 := by
        rw [← Nat.div_add_mod (ofModel f).magnitude leadingBit, least,
          (unpackMantissa_eq_zero_iff (ofModel f)).mp zero]
        rfl
      rw [dif_pos zero, none]
      exact .zero
    · rw [dif_neg zero, subnormal]
      exact canonical_subnormal mantissa least
  · rw [if_neg subnormal]
    refine canonical_normal mantissa (mt (unpackExponent_eq_iff (ofModel f) 0#11).mpr subnormal) ?_
    rw [← exponent]
    rfl

theorem eq_of_bits {x : Binary64} {s : Sign} {n : ℕ} (bound : n < 0x8000000000000000)
    (h : x.bits.toNat = s.toBitVec.toNat * 0x8000000000000000 + n) :
    x.sign = s ∧ x.magnitude = n := by
  have := x.magnitude_lt
  rw [x.bits_toNat] at h
  unfold sign
  cases s <;> cases negative : x.isNegative <;> simp [Sign.toBitVec, negative] at h ⊢ <;> omega

theorem packComponents_eq (s : Sign) (e : BitVec 11) (m : BitVec 52) :
    (mk (.ofBitVec (packComponents Format.binary64 s e m))).sign = s ∧
      (mk (.ofBitVec (packComponents Format.binary64 s e m))).magnitude =
        e.toNat * leadingBit + m.toNat := by
  have exponent := e.isLt
  have mantissa := m.isLt
  have bound : e.toNat * leadingBit + m.toNat < 0x8000000000000000 := by
    unfold leadingBit
    omega
  refine eq_of_bits bound ?_
  have bits : (packComponents Format.binary64 s e m).toNat =
      (s.toBitVec.toNat * 2 ^ 11 + e.toNat) * 2 ^ 52 + m.toNat := by
    unfold packComponents
    rw [BitVec.toNat_append, BitVec.toNat_append, ← Nat.shiftLeft_add_eq_or_of_lt exponent,
      ← Nat.shiftLeft_add_eq_or_of_lt mantissa, Nat.shiftLeft_eq, Nat.shiftLeft_eq]
  rw [UInt64.toNat_ofBitVec, bits, leadingBit]
  ring

theorem infinity_eq (s : Sign) :
    (ofModel (.pack (.infinity s))).sign = s ∧
      (ofModel (.pack (.infinity s))).magnitude = infinite := by
  obtain ⟨signed, steps⟩ := packComponents_eq s (-1#11) 0
  refine ⟨signed, Eq.trans steps ?_⟩
  decide

theorem pack_finite (s : Sign) (t : ℕ) {m : ℕ} (pos : 0 < m) :
    UnpackedFloat.pack Format.binary64 (.finite s m (t - 1074) pos) =
      if 2048 ≤ t + 1 + 1 then packedInfinity Format.binary64 s
      else if m.log2 + 1 = 53 then
        packComponents Format.binary64 s (.ofNat 11 (t + 1)) (.ofNat 52 m)
      else packComponents Format.binary64 s 0#11 (.ofNat 52 m) := by
  have exponent : ((t : ℤ) - 1074 + 1023 + 52).toNat = t + 1 := by omega
  rw [← exponent]
  rfl

theorem pack_canonical {u : UnpackedFloat} {s : Sign} {n : ℕ} (h : Canonical u s n) :
    (ofModel (.pack u)).sign = s ∧ (ofModel (.pack u)).magnitude = min n infinite := by
  cases h with
  | zero =>
    obtain ⟨signed, steps⟩ := packComponents_eq s 0 0
    exact ⟨signed, steps⟩
  | @finite _ t m pos lead bound =>
    change (mk (.ofBitVec (UnpackedFloat.pack Format.binary64 _))).sign = s ∧
      (mk (.ofBitVec (UnpackedFloat.pack Format.binary64 _))).magnitude = _
    rw [pack_finite]
    split
    · rename_i far
      have led : leadingBit ≤ m := lead.resolve_right (by omega)
      have farther : 2046 * leadingBit ≤ t * leadingBit := Nat.mul_le_mul_right _ (by omega)
      have beyond : infinite ≤ t * leadingBit + m :=
        calc
          infinite = 2046 * leadingBit + leadingBit := by decide
          _ ≤ t * leadingBit + m := Nat.add_le_add farther led
      rw [Nat.min_eq_right beyond]
      exact infinity_eq s
    · rename_i fits
      have nearer : t * leadingBit ≤ 2045 * leadingBit := Nat.mul_le_mul_right _ (by omega)
      have within : t * leadingBit + m ≤ infinite :=
        calc
          t * leadingBit + m ≤ 2045 * leadingBit + 2 * leadingBit := Nat.add_le_add nearer bound.le
          _ = infinite := by decide
      rw [Nat.min_eq_left within]
      split
      · rename_i normal
        have led : 2 ^ 52 ≤ m := (Nat.le_log2 pos.ne').mp (by omega)
        obtain ⟨signed, steps⟩ := packComponents_eq s (.ofNat 11 (t + 1)) (.ofNat 52 m)
        refine ⟨signed, steps.trans ?_⟩
        rw [BitVec.toNat_ofNat, BitVec.toNat_ofNat, Nat.mod_eq_of_lt (by omega)]
        unfold leadingBit at *
        omega
      · rename_i subnormal
        have most : m.log2 < 53 := (Nat.log2_lt pos.ne').mpr bound
        have small : m < 2 ^ 52 := (Nat.log2_lt pos.ne').mp (by omega)
        obtain rfl : t = 0 := lead.resolve_left small.not_ge
        obtain ⟨signed, steps⟩ := packComponents_eq s 0#11 (.ofNat 52 m)
        refine ⟨signed, steps.trans ?_⟩
        rw [BitVec.toNat_ofNat m, Nat.mod_eq_of_lt small, BitVec.toNat_zero]

end ForumDigest.Binary64
