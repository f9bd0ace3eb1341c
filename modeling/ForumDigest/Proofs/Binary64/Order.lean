import ForumDigest.Proofs.Binary64.Size
import Mathlib.Algebra.Order.Monoid.WithTop
import Mathlib.Order.WithBot

namespace ForumDigest.Binary64

/-- The number that a double stands for, with both infinities; not for NaNs. -/
def number (x : Binary64) : WithBot (WithTop ℚ) :=
  if x.isFinite then ((x.value : WithTop ℚ) : WithBot (WithTop ℚ))
  else if x.isNegative then ⊥ else ⊤

/-- The first bit of the fraction tells a quiet NaN from a signaling one. -/
def isQuiet (x : Binary64) : Bool := x.magnitude / 0x8000000000000 % 2 = 1

def payload (x : Binary64) : ℕ := x.magnitude % 0x8000000000000

/-- A signaling NaN is nearer to the numbers than a quiet one, and then the lesser payload is. -/
def IsNearer (x y : Binary64) : Prop :=
  x.isQuiet = false ∧ y.isQuiet = true ∨ x.isQuiet = y.isQuiet ∧ x.payload < y.payload

/-- `x` is `y`, or comes before it. -/
inductive Precedes : Binary64 → Binary64 → Prop where
  | same {x : Binary64} : Precedes x x
  | less {x y : Binary64} (hx : x.isNaN = false) (hy : y.isNaN = false) (h : x.number < y.number) :
      Precedes x y
  | zeros {x y : Binary64} (hx : x.magnitude = 0) (hy : y.magnitude = 0) (negative : x.isNegative = true)
      (positive : y.isNegative = false) : Precedes x y
  | negativeNaN {x y : Binary64} (hx : x.isNaN = true) (negative : x.isNegative = true)
      (hy : y.isNaN = false) : Precedes x y
  | positiveNaN {x y : Binary64} (hx : x.isNaN = false) (hy : y.isNaN = true)
      (positive : y.isNegative = false) : Precedes x y
  | signs {x y : Binary64} (hx : x.isNaN = true) (hy : y.isNaN = true)
      (negative : x.isNegative = true) (positive : y.isNegative = false) : Precedes x y
  | farther {x y : Binary64} (hx : x.isNaN = true) (hy : y.isNaN = true)
      (signs : x.isNegative = true ∧ y.isNegative = true) (h : y.IsNearer x) : Precedes x y
  | nearer {x y : Binary64} (hx : x.isNaN = true) (hy : y.isNaN = true)
      (signs : x.isNegative = false ∧ y.isNegative = false) (h : x.IsNearer y) : Precedes x y

variable {x y : Binary64}

theorem magnitude_lt (x : Binary64) : x.magnitude < 0x8000000000000000 :=
  Nat.mod_lt _ (by decide)

theorem isNaN_iff : x.isNaN = true ↔ 0x7FF0000000000000 < x.magnitude := decide_eq_true_iff

theorem not_isNaN_iff : x.isNaN = false ↔ x.magnitude ≤ 0x7FF0000000000000 := by
  rw [isNaN, decide_eq_false_iff_not, Nat.not_lt]

theorem isFinite_iff : x.isFinite = true ↔ x.magnitude < 0x7FF0000000000000 := decide_eq_true_iff

theorem rank_of_negative (h : x.isNegative = true) : x.rank = -1 - x.magnitude := if_pos h

theorem rank_of_positive (h : x.isNegative = false) : x.rank = x.magnitude := by
  rw [rank, h]
  rfl

theorem isNearer_iff (hx : x.isNaN = true) (hy : y.isNaN = true) :
    x.IsNearer y ↔ x.magnitude < y.magnitude := by
  rw [isNaN_iff] at hx hy
  have := x.magnitude_lt
  have := y.magnitude_lt
  simp only [IsNearer, isQuiet, payload, decide_eq_true_iff, decide_eq_false_iff_not,
    decide_eq_decide]
  omega

theorem value_lt_iff :
    x.value < y.value ↔ x.rank < y.rank ∧ ¬ (x.magnitude = 0 ∧ y.magnitude = 0) := by
  have hx := size_nonneg x.magnitude
  have hy := size_nonneg y.magnitude
  have zero {n : ℕ} : size n = 0 ↔ n = 0 := size_zero ▸ size_strictMono.injective.eq_iff
  rw [value_eq, value_eq]
  cases sx : x.isNegative <;> cases sy : y.isNegative
  · rw [rank_of_positive sx, rank_of_positive sy]
    simp only [Bool.false_eq_true, if_false, size_strictMono.lt_iff_lt]
    omega
  · rw [rank_of_positive sx, rank_of_negative sy]
    simp only [Bool.false_eq_true, if_false, if_true]
    exact iff_of_false (by linarith) (by omega)
  · rw [rank_of_negative sx, rank_of_positive sy, ← zero, ← zero]
    simp only [Bool.false_eq_true, if_false, if_true]
    constructor
    · exact fun h => ⟨by omega, fun ⟨zx, zy⟩ => by linarith⟩
    · rintro ⟨-, h⟩
      by_contra le
      exact h ⟨by linarith, by linarith⟩
  · rw [rank_of_negative sx, rank_of_negative sy]
    simp only [if_true, neg_lt_neg_iff, size_strictMono.lt_iff_lt]
    omega

theorem magnitude_of_infinite (number : x.isNaN = false) (infinite : x.isFinite = false) :
    x.magnitude = 0x7FF0000000000000 := by
  rw [not_isNaN_iff] at number
  rw [isFinite, decide_eq_false_iff_not] at infinite
  omega

theorem number_of_finite (h : x.isFinite = true) :
    x.number = ((x.value : WithTop ℚ) : WithBot (WithTop ℚ)) := if_pos h

theorem number_of_infinite (h : x.isFinite = false) :
    x.number = if x.isNegative then ⊥ else ⊤ := by
  rw [number, h]
  rfl

theorem number_lt_iff (hx : x.isNaN = false) (hy : y.isNaN = false) :
    x.number < y.number ↔ x.rank < y.rank ∧ ¬ (x.magnitude = 0 ∧ y.magnitude = 0) := by
  cases fx : x.isFinite <;> cases fy : y.isFinite
  · have mx := magnitude_of_infinite hx fx
    have my := magnitude_of_infinite hy fy
    rw [number_of_infinite fx, number_of_infinite fy]
    cases sx : x.isNegative <;> cases sy : y.isNegative <;>
      simp [rank, sx, sy, mx, my]
  · have mx := magnitude_of_infinite hx fx
    have my := isFinite_iff.mp fy
    rw [number_of_infinite fx, number_of_finite fy]
    cases sx : x.isNegative <;> cases sy : y.isNegative <;>
      simp [rank, sx, sy, mx] <;> omega
  · have mx := isFinite_iff.mp fx
    have my := magnitude_of_infinite hy fy
    have below : ((x.value : WithTop ℚ) : WithBot (WithTop ℚ)) < ⊤ :=
      WithBot.coe_lt_coe.mpr (WithTop.coe_lt_top _)
    rw [number_of_finite fx, number_of_infinite fy]
    cases sx : x.isNegative <;> cases sy : y.isNegative <;>
      simp [rank, sx, sy, my, below] <;> omega
  · rw [number_of_finite fx, number_of_finite fy, WithBot.coe_lt_coe, WithTop.coe_lt_coe,
      value_lt_iff]

theorem Precedes.rank_le (h : Precedes x y) : x.rank ≤ y.rank := by
  cases h with
  | same => exact le_rfl
  | less hx hy h => exact ((number_lt_iff hx hy).mp h).1.le
  | zeros hx hy negative positive =>
    rw [rank_of_negative negative, rank_of_positive positive]
    omega
  | negativeNaN hx negative hy =>
    rw [isNaN_iff] at hx
    rw [not_isNaN_iff] at hy
    rw [rank_of_negative negative, rank]
    split <;> omega
  | positiveNaN hx hy positive =>
    rw [not_isNaN_iff] at hx
    rw [isNaN_iff] at hy
    rw [rank_of_positive positive, rank]
    split <;> omega
  | signs hx hy negative positive =>
    rw [rank_of_negative negative, rank_of_positive positive]
    omega
  | farther hx hy signs h =>
    rw [isNearer_iff hy hx] at h
    rw [rank_of_negative signs.1, rank_of_negative signs.2]
    omega
  | nearer hx hy signs h =>
    rw [isNearer_iff hx hy] at h
    rw [rank_of_positive signs.1, rank_of_positive signs.2]
    omega

theorem bits_toNat (x : Binary64) :
    x.bits.toNat = if x.isNegative then x.magnitude + 0x8000000000000000 else x.magnitude := by
  have bound := x.bits.toNat_lt
  have sign : x.isNegative = true ↔ 0x8000000000000000 ≤ x.bits.toNat := by
    rw [isNegative, decide_eq_true_iff, UInt64.le_iff_toNat_le]
    rfl
  unfold magnitude
  split
  · rename_i h
    have := sign.mp h
    omega
  · rename_i h
    have := mt sign.mpr h
    omega

theorem rank_injective : Function.Injective rank := by
  intro x y h
  have bits : x.bits.toNat = y.bits.toNat := by
    rw [x.bits_toNat, y.bits_toNat]
    unfold rank at h
    split at h <;> split at h <;> simp_all <;> omega
  cases x
  cases y
  exact congrArg mk (UInt64.toNat_inj.mp bits)

theorem precedes_of_rank_lt (h : x.rank < y.rank) : Precedes x y := by
  cases hx : x.isNaN <;> cases hy : y.isNaN
  · -- Two numbers, and the two zeros apart they are told by their values.
    by_cases zeros : x.magnitude = 0 ∧ y.magnitude = 0
    · cases sx : x.isNegative <;> cases sy : y.isNegative <;> simp [rank, sx, sy, zeros] at h
      exact .zeros zeros.1 zeros.2 sx sy
    · exact .less hx hy ((number_lt_iff hx hy).mpr ⟨h, zeros⟩)
  · cases sy : y.isNegative
    · exact .positiveNaN hx hy sy
    · rw [not_isNaN_iff] at hx
      rw [isNaN_iff] at hy
      rw [rank_of_negative sy, rank] at h
      split at h <;> omega
  · cases sx : x.isNegative
    · rw [isNaN_iff] at hx
      rw [not_isNaN_iff] at hy
      rw [rank_of_positive sx, rank] at h
      split at h <;> omega
    · exact .negativeNaN hx sx hy
  · cases sx : x.isNegative <;> cases sy : y.isNegative
    · rw [rank_of_positive sx, rank_of_positive sy] at h
      exact .nearer hx hy ⟨sx, sy⟩ ((isNearer_iff hx hy).mpr (by omega))
    · rw [rank_of_positive sx, rank_of_negative sy] at h
      omega
    · exact .signs hx hy sx sy
    · rw [rank_of_negative sx, rank_of_negative sy] at h
      exact .farther hx hy ⟨sx, sy⟩ ((isNearer_iff hy hx).mpr (by omega))

theorem precedes_iff : Precedes x y ↔ x.rank ≤ y.rank := by
  constructor
  · exact Precedes.rank_le
  · intro h
    obtain less | equal := h.lt_or_eq
    · exact precedes_of_rank_lt less
    · exact rank_injective equal ▸ .same

end ForumDigest.Binary64
