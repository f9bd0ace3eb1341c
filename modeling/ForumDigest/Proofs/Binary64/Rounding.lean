import ForumDigest.Proofs.Binary64.Size

open Float.Model Float.Model.UnpackedFloat

namespace ForumDigest.Binary64

/-- `n` steps lead to the double nearest to `q`; of two that are as near, to the even one. -/
inductive Nearest : ℕ → ℚ → Prop where
  | down {k : ℕ} {q : ℚ} (reached : size k ≤ q) (near : 2 * q < size k + size (k + 1)) : Nearest k q
  | up {k : ℕ} {q : ℚ} (ahead : q < size (k + 1)) (near : size k + size (k + 1) < 2 * q) :
      Nearest (k + 1) q
  | tie {k : ℕ} {q : ℚ} (middle : 2 * q = size k + size (k + 1)) : Nearest (k + k % 2) q

namespace Nearest

variable {n m : ℕ} {q r : ℚ}

theorem middle_le (h : Nearest n q) {k : ℕ} (below : k < n) :
    size k + size (k + 1) < 2 * q ∨ size k + size (k + 1) = 2 * q ∧ n = k + 1 ∧ n % 2 = 0 := by
  have middles {j : ℕ} (less : k < j) : size k + size (k + 1) < size j + size (j + 1) :=
    add_lt_add (size_strictMono less) (size_strictMono (Nat.succ_lt_succ less))
  cases h with
  | down reached near =>
    have := size_strictMono below
    have := size_strictMono.monotone (Nat.succ_le_of_lt below)
    exact .inl (by linarith)
  | @up j _ ahead near =>
    obtain less | rfl := Nat.lt_succ_iff_lt_or_eq.mp below
    · exact .inl ((middles less).trans near)
    · exact .inl near
  | @tie j _ middle =>
    obtain less | rfl | more := Nat.lt_trichotomy k j
    · exact .inl (middle ▸ middles less)
    · exact .inr ⟨middle.symm, by omega, by omega⟩
    · omega

theorem le_middle (h : Nearest n q) {k : ℕ} (above : n ≤ k) :
    2 * q < size k + size (k + 1) ∨ 2 * q = size k + size (k + 1) ∧ n = k ∧ n % 2 = 0 := by
  have middles {j : ℕ} (more : j < k) : size j + size (j + 1) < size k + size (k + 1) :=
    add_lt_add (size_strictMono more) (size_strictMono (Nat.succ_lt_succ more))
  cases h with
  | down reached near =>
    obtain rfl | more := Nat.eq_or_lt_of_le above
    · exact .inl near
    · exact .inl (near.trans (middles more))
  | @up j _ ahead near =>
    have := size_strictMono.monotone above
    have := size_strictMono (Nat.lt_succ_self k)
    exact .inl (by linarith)
  | @tie j _ middle =>
    obtain less | rfl | more := Nat.lt_trichotomy k j
    · omega
    · exact .inr ⟨middle, by omega, by omega⟩
    · exact .inl (middle ▸ middles more)

theorem le (hn : Nearest n q) (hm : Nearest m r) (h : q ≤ r) : n ≤ m := by
  by_contra more
  -- The two would round apart from the same middle, and to neighbours that are both even.
  obtain below | ⟨below, next, even⟩ := hn.middle_le (Nat.lt_of_not_le more)
  · obtain above | ⟨above, -⟩ := hm.le_middle (le_refl m) <;> linarith
  · obtain above | ⟨above, -, even'⟩ := hm.le_middle (le_refl m)
    · linarith
    · omega

end Nearest

theorem nearest_size (n : ℕ) : Nearest n (size n) :=
  .down le_rfl (by linarith [size_strictMono n.lt_succ_self])

/-- Where a number lies in a unit, from its beginning. -/
def Tells : Accuracy → ℚ → Prop
  | .exact, f => f = 0
  | .inexact .lt, f => 0 < f ∧ f < 1 / 2
  | .inexact .eq, f => f = 1 / 2
  | .inexact .gt, f => 1 / 2 < f ∧ f < 1

/-- The mantissa is the whole part of `x`, and the two bits tell what is behind it. -/
def Keeps (em : ExtendedMantissa) (x : ℚ) : Prop := Tells em.accuracy (x - em.mantissa)

variable {em : ExtendedMantissa} {x : ℚ}

theorem keeps_ofMantissaAndAccuracy {m : ℕ} {a : Accuracy} (h : Tells a (x - m)) :
    Keeps (.ofMantissaAndAccuracy m a) x := by
  match a with
  | .exact | .inexact .lt | .inexact .eq | .inexact .gt => exact h

theorem Keeps.shiftRightOne (h : Keeps em x) : Keeps em.shiftRightOne (x / 2) := by
  obtain ⟨m, roundBit, stickyBit⟩ := em
  have halves : (m : ℚ) = 2 * (m / 2 : ℕ) + (m % 2 : ℕ) := by exact_mod_cast (Nat.div_add_mod m 2).symm
  obtain parity | parity := Nat.mod_two_eq_zero_or_one m <;> rw [parity] at halves <;>
    cases roundBit <;> cases stickyBit <;>
    simp [Keeps, ExtendedMantissa.shiftRightOne, ExtendedMantissa.accuracy, parity, Tells]
      at h halves ⊢ <;>
    (try constructor) <;> linarith

theorem Keeps.shiftRight (h : Keeps em x) (n : ℕ) : Keeps (em >>> n) (x / 2 ^ n) := by
  induction n with
  | zero => rwa [pow_zero, div_one]
  | succ n ih =>
    rw [pow_succ, ← div_div]
    exact ih.shiftRightOne

theorem mantissa_shiftRight (em : ExtendedMantissa) (n : ℕ) :
    (em >>> n).mantissa = em.mantissa / 2 ^ n := by
  induction n with
  | zero => exact (Nat.div_one _).symm
  | succ n ih =>
    rw [Nat.pow_succ, ← Nat.div_div_eq_div_mul, ← ih]
    rfl

theorem Keeps.nearest (h : Keeps em x) {t : ℕ} (lead : leadingBit ≤ em.mantissa ∨ t = 0)
    (bound : em.mantissa < 2 * leadingBit) :
    Nearest (t * leadingBit + em.roundedMantissa) (x * 2 ^ ((t : ℤ) - 1074)) := by
  obtain ⟨m, roundBit, stickyBit⟩ := em
  have here : size (t * leadingBit + m) = m * 2 ^ ((t : ℤ) - 1074) :=
    (Steps.mk rfl lead bound.le).size_eq
  have next : size (t * leadingBit + m + 1) = (m + 1 : ℕ) * 2 ^ ((t : ℤ) - 1074) :=
    (Steps.mk (Nat.add_assoc ..) (lead.imp_left (Nat.le_add_right_of_le ·)) bound).size_eq
  have unit : (0 : ℚ) < 2 ^ ((t : ℤ) - 1074) := zpow_pos two_pos _
  generalize (2 : ℚ) ^ ((t : ℤ) - 1074) = u at *
  obtain ⟨f, rfl⟩ : ∃ f, x = m + f := ⟨x - m, by ring⟩
  push_cast at next
  rw [Keeps, add_sub_cancel_left] at h
  cases roundBit <;> cases stickyBit
  · obtain rfl : f = 0 := h
    have rounded : Nearest (t * leadingBit + m) ((m + 0) * u) := .down (by linarith) (by linarith)
    exact rounded
  · have := mul_pos h.1 unit
    have := mul_lt_mul_of_pos_right h.2 unit
    have rounded : Nearest (t * leadingBit + m) ((m + f) * u) := .down (by linarith) (by linarith)
    exact rounded
  · obtain rfl : f = 1 / 2 := h
    have even : (t * leadingBit + m) % 2 = m % 2 := by unfold leadingBit; omega
    have rounded : Nearest (t * leadingBit + m + (t * leadingBit + m) % 2) ((m + 1 / 2) * u) :=
      .tie (by linarith)
    rwa [even, Nat.add_assoc] at rounded
  · have := mul_lt_mul_of_pos_right h.1 unit
    have := mul_lt_mul_of_pos_right h.2 unit
    have rounded : Nearest (t * leadingBit + m + 1) ((m + f) * u) := .up (by linarith) (by linarith)
    rwa [Nat.add_assoc] at rounded

theorem targetExponent_eq (l : ℤ) : Format.binary64.targetExponent l = max (l - 53) (-1074) := by
  have bits : (Format.binary64.mantissaBits : ℤ) = 53 := by decide
  have least : Format.binary64.minExponent = -1074 := by decide
  rw [Format.targetExponent, bits, least]

theorem div_lt_of_log2_le {m k : ℕ} (h : m.log2 ≤ 52 + k) : m / 2 ^ k < 2 * leadingBit := by
  refine (Nat.div_lt_iff_lt_mul (Nat.two_pow_pos k)).mpr ?_
  calc
    m < 2 ^ (m.log2 + 1) := Nat.lt_log2_self
    _ ≤ 2 ^ (53 + k) := Nat.pow_le_pow_right two_pos (by omega)
    _ = 2 * leadingBit * 2 ^ k := Nat.pow_add ..

theorem le_div_of_log2_eq {m k : ℕ} (h : m.log2 = 52 + k) : leadingBit ≤ m / 2 ^ k := by
  have pos : m ≠ 0 := by
    rintro rfl
    rw [Nat.log2_zero] at h
    omega
  refine (Nat.le_div_iff_mul_le (Nat.two_pow_pos k)).mpr ?_
  calc
    leadingBit * 2 ^ k = 2 ^ (52 + k) := (Nat.pow_add 2 52 k).symm
    _ ≤ m := h ▸ Nat.log2_self_le pos

inductive Canonical : UnpackedFloat → Sign → ℕ → Prop where
  | zero {s : Sign} : Canonical (.zero s) s 0
  | finite {s : Sign} {t m : ℕ} {pos : 0 < m} (lead : leadingBit ≤ m ∨ t = 0)
      (bound : m < 2 * leadingBit) : Canonical (.finite s m (t - 1074) pos) s (t * leadingBit + m)

theorem roundedMantissa_bounds (em : ExtendedMantissa) :
    em.mantissa ≤ em.roundedMantissa ∧ em.roundedMantissa ≤ em.mantissa + 1 := by
  obtain ⟨m, roundBit, stickyBit⟩ := em
  cases roundBit <;> cases stickyBit <;>
    simp only [ExtendedMantissa.roundedMantissa, ExtendedMantissa.accuracy,
      Accuracy.roundToNearestEven] <;>
    omega

theorem shiftToTargetExponent_eq {m : ℕ} {e : ℤ} {a : Accuracy} {k : ℕ}
    (h : max (m.log2 + e - 52) (-1074) = e + k) :
    shiftToTargetExponent Format.binary64 m e a =
      (ExtendedMantissa.ofMantissaAndAccuracy m a >>> k, e + k) := by
  have target : Format.binary64.targetExponent (totalExponent m e) = e + k := by
    rw [targetExponent_eq, totalExponent]
    omega
  have shift : (e + k - e).toNat = k := by omega
  rw [shiftToTargetExponent, target, shiftToExponent, shift]

/-- A rounded mantissa is left as it is, or shifted by the one bit that rounding has added. -/
theorem shiftToTargetExponent_rounded {r t : ℕ} (lead : leadingBit ≤ r ∨ t = 0)
    (bound : r ≤ 2 * leadingBit) :
    ∃ t' r', shiftToTargetExponent Format.binary64 r (t - 1074) .exact =
        (⟨r', false, false⟩, ((t' : ℕ) - 1074 : ℤ)) ∧
      t' * leadingBit + r' = t * leadingBit + r ∧ (leadingBit ≤ r' ∨ t' = 0) ∧
      r' < 2 * leadingBit := by
  obtain less | rfl := Nat.lt_or_eq_of_le bound
  · refine ⟨t, r, ?_, rfl, lead, less⟩
    have most : r.log2 ≤ 52 := by
      by_cases pos : r = 0
      · rw [pos, Nat.log2_zero]
        omega
      · exact Nat.le_of_lt_succ ((Nat.log2_lt pos).mpr less)
    have least : 52 ≤ r.log2 ∨ t = 0 := by
      refine lead.imp_left fun led => ?_
      have pos : r ≠ 0 := by
        rintro rfl
        exact absurd led (by decide)
      exact (Nat.le_log2 pos).mpr led
    rw [shiftToTargetExponent_eq (k := 0) (by omega), Nat.cast_zero, add_zero]
    rfl
  · have bits : (2 * leadingBit).log2 = 53 := by decide +kernel
    refine ⟨t + 1, leadingBit, ?_, ?_, .inl le_rfl, by decide⟩
    · rw [shiftToTargetExponent_eq (k := 1) (by rw [bits]; omega)]
      congr 1
      push_cast
      ring
    · ring

theorem roundWithAccuracy_canonical (s : Sign) {m : ℕ} {e : ℤ} {a : Accuracy} {x : ℚ}
    (h : Tells a (x - m)) (fine : e ≤ max (m.log2 + e - 52) (-1074)) :
    ∃ n, Nearest n (x * 2 ^ e) ∧ Canonical (roundWithAccuracy Format.binary64 s m e a) s n := by
  obtain ⟨k, hk⟩ := Int.le.dest fine
  obtain ⟨t, ht⟩ := Int.le.dest (le_max_right (m.log2 + e - 52) (-1074))
  have kept := (keeps_ofMantissaAndAccuracy h).shiftRight k
  have whole : (ExtendedMantissa.ofMantissaAndAccuracy m a >>> k).mantissa = m / 2 ^ k := by
    rw [mantissa_shiftRight]
    match a with
    | .exact | .inexact .lt | .inexact .eq | .inexact .gt => rfl
  have first := shiftToTargetExponent_eq (a := a) hk.symm
  generalize ExtendedMantissa.ofMantissaAndAccuracy m a >>> k = em at *
  have bound : em.mantissa < 2 * leadingBit := whole ▸ div_lt_of_log2_le (by omega)
  have lead : leadingBit ≤ em.mantissa ∨ t = 0 := by
    by_cases least : t = 0
    · exact .inr least
    · exact .inl (whole ▸ le_div_of_log2_eq (by omega))
  obtain ⟨low, high⟩ := roundedMantissa_bounds em
  obtain ⟨t', r', second, same, lead', bound'⟩ :=
    shiftToTargetExponent_rounded (lead.imp_left (·.trans low)) (high.trans bound)
  have exponent : e + k = (t : ℤ) - 1074 := by omega
  refine ⟨t * leadingBit + em.roundedMantissa, ?_, ?_⟩
  · have scaled : x * 2 ^ e = x / 2 ^ k * 2 ^ ((t : ℤ) - 1074) := by
      rw [← exponent, zpow_add₀ two_ne_zero, zpow_natCast, mul_comm (2 ^ e : ℚ), ← mul_assoc,
        div_mul_cancel₀ _ (pow_ne_zero k two_ne_zero)]
    exact scaled ▸ kept.nearest lead bound
  · unfold roundWithAccuracy
    rw [first, exponent]
    dsimp only
    rw [second]
    dsimp only
    by_cases zero : r' = 0
    · obtain rfl : t' = 0 := lead'.resolve_left (by rw [zero]; decide)
      rw [dif_pos zero, ← same, zero, Nat.zero_mul]
      exact .zero
    · rw [dif_neg zero]
      exact same ▸ .finite lead' bound'

end ForumDigest.Binary64
