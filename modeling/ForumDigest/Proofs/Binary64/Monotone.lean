import ForumDigest.Proofs.Binary64.Arithmetic

open Float.Model Float.Model.UnpackedFloat

namespace ForumDigest.Binary64

theorem rank_eq (x : Binary64) :
    x.rank = match x.sign with
      | .negative => -1 - (x.magnitude : ℤ)
      | .positive => x.magnitude := by
  unfold rank sign
  cases x.isNegative <;> rfl

section Scaling

variable {x y x' y' : Binary64} (le : x.magnitude ≤ y.magnitude → x'.magnitude ≤ y'.magnitude)
  (ge : y.magnitude ≤ x.magnitude → y'.magnitude ≤ x'.magnitude) (h : x.rank ≤ y.rank)
include le ge h

theorem rank_le_of_kept (hx : x'.sign = x.sign) (hy : y'.sign = y.sign) : x'.rank ≤ y'.rank := by
  rw [rank_eq, rank_eq y] at h
  rw [rank_eq, rank_eq y', hx, hy]
  generalize x.sign = s, y.sign = r at *
  cases s <;> cases r <;> dsimp only at h ⊢ <;> omega

theorem rank_le_of_turned (hx : x'.sign = -x.sign) (hy : y'.sign = -y.sign) : y'.rank ≤ x'.rank := by
  rw [rank_eq, rank_eq y] at h
  have turned (s : Sign) (n : ℕ) :
      (match -s with | .negative => -1 - (n : ℤ) | .positive => n) =
        match s with | .negative => (n : ℤ) | .positive => -1 - n := by cases s <;> rfl
  rw [rank_eq, rank_eq x', hx, hy, turned, turned]
  generalize x.sign = s, y.sign = r at *
  cases s <;> cases r <;> dsimp only at h ⊢ <;> omega

end Scaling

theorem size_power {t : ℕ} (pos : t ≠ 0) : size (t * leadingBit) = 2 ^ ((t : ℤ) - 1023) := by
  obtain ⟨t, rfl⟩ := Nat.exists_eq_succ_of_ne_zero pos
  have steps : Steps ((t + 1) * leadingBit) t leadingBit := ⟨by ring, .inl le_rfl, by decide⟩
  have bits : ((leadingBit : ℕ) : ℚ) = 2 ^ (52 : ℤ) := by norm_num [leadingBit]
  rw [steps.size_eq, bits, ← zpow_add₀ two_ne_zero]
  congr 1
  push_cast
  ring

namespace Rounds

variable {x y : Binary64} {s r : Sign} {p q : ℚ} {m : ℕ}

theorem magnitude_mono (hx : Rounds x s p) (hy : Rounds y r q) (h : p ≤ q) :
    x.magnitude ≤ y.magnitude := by
  obtain ⟨-, n, nearest, steps⟩ := hx
  obtain ⟨-, n', nearest', steps'⟩ := hy
  rw [steps, steps']
  exact min_le_min_right _ (nearest.le nearest' h)

theorem magnitude_le (hx : Rounds x s q) (h : q ≤ size m) : x.magnitude ≤ m := by
  obtain ⟨-, n, nearest, steps⟩ := hx
  rw [steps]
  exact min_le_of_left_le (nearest.le (nearest_size m) h)

theorem le_magnitude (hx : Rounds x s q) (within : m ≤ infinite) (h : size m ≤ q) :
    m ≤ x.magnitude := by
  obtain ⟨-, n, nearest, steps⟩ := hx
  rw [steps]
  exact le_min ((nearest_size m).le nearest h) within

theorem isNaN (hx : Rounds x s q) : x.isNaN = false := by
  obtain ⟨-, n, -, steps⟩ := hx
  exact not_isNaN_iff.mpr (steps ▸ min_le_right n infinite)

theorem magnitude_of_zero (hx : Rounds x s 0) : x.magnitude = 0 :=
  Nat.le_zero.mp (hx.magnitude_le (size_nonneg 0))

theorem rank_le (hx : Rounds x (signOf p) |p|) (hy : Rounds y (signOf q) |q|) (h : p ≤ q) :
    x.rank ≤ y.rank := by
  have le := hx.magnitude_mono hy
  have ge := hy.magnitude_mono hx
  rw [rank_eq, rank_eq, hx.sign, hy.sign]
  unfold signOf
  by_cases np : p < 0 <;> by_cases nq : q < 0 <;> simp only [np, nq, if_true, if_false]
  · have := ge (by rw [abs_of_neg np, abs_of_neg nq]; linarith)
    omega
  · omega
  · linarith
  · rw [not_lt] at np nq
    have := le (by rwa [abs_of_nonneg np, abs_of_nonneg nq])
    omega

end Rounds

variable {f g a : Float}

theorem isNaN_nan : nan.isNaN = true := by decide +kernel

theorem number_div (hf : (ofFloat f).isFinite = true) (ha : (ofFloat a).isNaN = false)
    (nonzero : (ofFloat a).magnitude ≠ 0) : (ofFloat (f / a)).isNaN = false := by
  cases finite : (ofFloat a).isFinite
  · exact (div_of_infinite hf (magnitude_of_infinite ha finite)).isNaN
  · exact (div_rounds hf finite nonzero).isNaN

theorem sign_div (hf : (ofFloat f).isFinite = true) (number : (ofFloat (f / a)).isNaN = false) :
    (ofFloat (f / a)).sign = (ofFloat f).sign / (ofFloat a).sign := by
  cases ha : (ofFloat a).isNaN
  · cases finite : (ofFloat a).isFinite
    · exact (div_of_infinite hf (magnitude_of_infinite ha finite)).sign
    · by_cases zero : (ofFloat a).magnitude = 0
      · obtain none | ⟨signed, -⟩ := div_of_zero hf zero
        · rw [none, isNaN_nan] at number
          cases number
        · exact signed
      · exact (div_rounds hf finite zero).sign
  · rw [div_of_isNaN (.inr ha), isNaN_nan] at number
    cases number

section Quotients

variable (hf : (ofFloat f).isFinite = true) (hg : (ofFloat g).isFinite = true)
  (ha : (ofFloat a).isNaN = false) (nonzero : (ofFloat a).magnitude ≠ 0)
include hf hg ha nonzero

theorem magnitude_div_le (h : (ofFloat f).magnitude ≤ (ofFloat g).magnitude) :
    (ofFloat (f / a)).magnitude ≤ (ofFloat (g / a)).magnitude := by
  cases finite : (ofFloat a).isFinite
  · have far := magnitude_of_infinite ha finite
    exact (div_of_infinite hf far).magnitude_mono (div_of_infinite hg far) le_rfl
  · refine (div_rounds hf finite nonzero).magnitude_mono (div_rounds hg finite nonzero) ?_
    exact div_le_div_of_nonneg_right (size_strictMono.monotone h) (size_nonneg _)

variable (h : (ofFloat f).rank ≤ (ofFloat g).rank)
include h

theorem div_rank_le (positive : (ofFloat a).sign = .positive) :
    (ofFloat (f / a)).rank ≤ (ofFloat (g / a)).rank := by
  have kept (s : Sign) : s / .positive = s := by cases s <;> rfl
  have sf := sign_div hf (number_div hf ha nonzero)
  have sg := sign_div hg (number_div hg ha nonzero)
  rw [positive, kept] at sf sg
  exact rank_le_of_kept (magnitude_div_le hf hg ha nonzero) (magnitude_div_le hg hf ha nonzero) h sf sg

theorem div_rank_ge (negative : (ofFloat a).sign = .negative) :
    (ofFloat (g / a)).rank ≤ (ofFloat (f / a)).rank := by
  have turned (s : Sign) : s / .negative = -s := by cases s <;> rfl
  have sf := sign_div hf (number_div hf ha nonzero)
  have sg := sign_div hg (number_div hg ha nonzero)
  rw [negative, turned] at sf sg
  exact rank_le_of_turned (magnitude_div_le hf hg ha nonzero) (magnitude_div_le hg hf ha nonzero) h
    sf sg

end Quotients

theorem value_le_of_rank_le {x y : Binary64} (h : x.rank ≤ y.rank) : x.value ≤ y.value := by
  by_contra less
  exact absurd (value_lt_iff.mp (lt_of_not_ge less)).1 h.not_gt

theorem add_rank_le {f' g' : Float} (hf : (ofFloat f).isFinite = true)
    (hg : (ofFloat g).isFinite = true) (hf' : (ofFloat f').isFinite = true)
    (hg' : (ofFloat g').isFinite = true) (positive : (ofFloat f).sign = .positive)
    (positive' : (ofFloat f').sign = .positive) (le : (ofFloat f).rank ≤ (ofFloat f').rank)
    (le' : (ofFloat g).rank ≤ (ofFloat g').rank) :
    (ofFloat (f + g)).rank ≤ (ofFloat (f' + g')).rank :=
  (add_rounds hf hg positive).rank_le (add_rounds hf' hg' positive')
    (add_le_add (value_le_of_rank_le le) (value_le_of_rank_le le'))

end ForumDigest.Binary64
