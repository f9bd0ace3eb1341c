import ForumDigest.Binary64.Shortest
import Mathlib.Algebra.Order.Field.Power
import Mathlib.Data.Rat.Cast.Order
import Mathlib.Tactic.Linarith
import Mathlib.Tactic.NormNum
import Mathlib.Tactic.Positivity
import Mathlib.Tactic.Ring

namespace ForumDigest.Binary64

def size (n : ℕ) : ℚ :=
  if n / leadingBit = 0 then (n % leadingBit : ℕ) * 2 ^ (-1074 : ℤ)
  else (n % leadingBit + leadingBit : ℕ) * 2 ^ ((n / leadingBit : ℕ) - 1075 : ℤ)

def value (x : Binary64) : ℚ :=
  (if x.isNegative then -1 else 1) * ((x.scaled.1 : ℚ) * 2 ^ x.scaled.2)

theorem value_eq (x : Binary64) :
    x.value = if x.isNegative then -size x.magnitude else size x.magnitude := by
  have worth : (x.scaled.1 : ℚ) * 2 ^ x.scaled.2 = size x.magnitude := by
    unfold scaled size
    by_cases h : x.magnitude / leadingBit = 0 <;> simp only [h, if_true, if_false]
  rw [value, worth]
  split <;> ring

/-- `n` steps are `r` units after the unit has been doubled `t` times. -/
structure Steps (n t r : ℕ) : Prop where
  eq : n = t * leadingBit + r
  lead : leadingBit ≤ r ∨ t = 0
  bound : r ≤ 2 * leadingBit

theorem exists_steps (n : ℕ) : ∃ t r, Steps n t r ∧ r < 2 * leadingBit := by
  by_cases small : n < 2 * leadingBit
  · exact ⟨0, n, ⟨by omega, .inr rfl, small.le⟩, small⟩
  · refine ⟨n / leadingBit - 1, n % leadingBit + leadingBit, ⟨?_, .inl ?_, ?_⟩, ?_⟩ <;>
      unfold leadingBit at small ⊢ <;> omega

theorem Steps.size_eq {n t r : ℕ} (h : Steps n t r) : size n = r * 2 ^ ((t : ℤ) - 1074) := by
  obtain ⟨rfl, lead, bound⟩ := h
  unfold size
  by_cases least : r < leadingBit
  · -- In least units, below the first leading bit.
    obtain rfl : t = 0 := by omega
    rw [Nat.zero_mul, Nat.zero_add, Nat.div_eq_of_lt least, Nat.mod_eq_of_lt least, if_pos rfl]
    norm_num
  · by_cases last : r = 2 * leadingBit
    · -- The last unit of one width leads to the leading bit of the next.
      have quotient : (t * leadingBit + r) / leadingBit = t + 2 := by unfold leadingBit at *; omega
      have remainder : (t * leadingBit + r) % leadingBit = 0 := by unfold leadingBit at *; omega
      have width : ((t + 2 : ℕ) : ℤ) - 1075 = (t - 1074 : ℤ) + 1 := by push_cast; ring
      rw [quotient, remainder, if_neg (by omega), width, zpow_add_one₀ two_ne_zero, last]
      push_cast
      ring
    · have quotient : (t * leadingBit + r) / leadingBit = t + 1 := by unfold leadingBit at *; omega
      have remainder : (t * leadingBit + r) % leadingBit + leadingBit = r := by
        unfold leadingBit at *; omega
      have width : ((t + 1 : ℕ) : ℤ) - 1075 = (t - 1074 : ℤ) := by push_cast; ring
      rw [quotient, remainder, if_neg (by omega), width]

theorem size_strictMono : StrictMono size := by
  refine strictMono_nat_of_lt_succ fun n => ?_
  obtain ⟨t, r, steps, below⟩ := exists_steps n
  have next : Steps (n + 1) t (r + 1) :=
    ⟨by rw [steps.eq]; ring, steps.lead.imp_left (by omega), below⟩
  rw [steps.size_eq, next.size_eq]
  have unit : (0 : ℚ) < 2 ^ ((t : ℤ) - 1074) := zpow_pos two_pos _
  push_cast
  linarith

theorem size_zero : size 0 = 0 := by
  have steps : Steps 0 0 0 := ⟨rfl, .inr rfl, Nat.zero_le _⟩
  rw [steps.size_eq, Nat.cast_zero, zero_mul]

theorem size_nonneg (n : ℕ) : 0 ≤ size n := size_zero ▸ size_strictMono.monotone n.zero_le

theorem size_pos {n : ℕ} (h : n ≠ 0) : 0 < size n :=
  size_zero ▸ size_strictMono (Nat.pos_of_ne_zero h)

end ForumDigest.Binary64
