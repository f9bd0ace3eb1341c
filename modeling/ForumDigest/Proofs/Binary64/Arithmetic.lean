import ForumDigest.Proofs.Binary64.Packing
import Mathlib.Tactic.FieldSimp

open Float.Model Float.Model.UnpackedFloat

namespace ForumDigest.Binary64

/-- The double of the sign `s` that is nearest to `q`, an infinity if `q` is too far. -/
structure Rounds (x : Binary64) (s : Sign) (q : ℚ) : Prop where
  sign : x.sign = s
  steps : ∃ n, Nearest n q ∧ x.magnitude = min n infinite

theorem Canonical.rounds {u : UnpackedFloat} {s : Sign} {n : ℕ} {q : ℚ} (h : Canonical u s n)
    (nearest : Nearest n q) : Rounds (ofModel (.pack u)) s q :=
  ⟨(pack_canonical h).1, n, nearest, (pack_canonical h).2⟩

theorem rounds_zero (s : Sign) : Rounds (ofModel (.pack (.zero s))) s 0 :=
  Canonical.zero.rounds (size_zero ▸ nearest_size 0)

def signOf (q : ℚ) : Sign := if q < 0 then .negative else .positive

def signed (s : Sign) (q : ℚ) : ℚ :=
  match s with
  | .negative => -q
  | .positive => q

theorem signOf_signed (s : Sign) {q : ℚ} (pos : 0 < q) : signOf (signed s q) = s := by
  cases s
  · exact if_pos (neg_neg_of_pos pos)
  · exact if_neg pos.not_gt

theorem abs_signed (s : Sign) {q : ℚ} (nonneg : 0 ≤ q) : |signed s q| = q := by
  cases s
  · exact (abs_neg q).trans (abs_of_nonneg nonneg)
  · exact abs_of_nonneg nonneg

theorem signed_zero (s : Sign) : signed s 0 = 0 := by
  cases s
  · exact neg_zero
  · rfl

theorem value_eq_signed (x : Binary64) : x.value = signed x.sign (size x.magnitude) := by
  rw [value_eq, sign]
  split <;> rfl

theorem abs_value (x : Binary64) : |x.value| = size x.magnitude := by
  rw [value_eq_signed, abs_signed _ (size_nonneg _)]

theorem tells_accuracyOfFraction {num den : ℕ} (h : num < den) :
    Tells (accuracyOfFraction num den) (num / den) := by
  have pos : (0 : ℚ) < den := Nat.cast_pos.mpr (num.zero_le.trans_lt h)
  have less : (num / den : ℚ) < 1 := (div_lt_one pos).mpr (Nat.cast_lt.mpr h)
  unfold accuracyOfFraction
  split
  · rename_i zero
    rw [zero, Nat.cast_zero, zero_div]
    rfl
  · rename_i nonzero
    have some : (0 : ℚ) < num / den := div_pos (Nat.cast_pos.mpr (Nat.pos_of_ne_zero nonzero)) pos
    obtain lt | eq | gt := Nat.lt_trichotomy (2 * num) den
    · rw [Nat.compare_eq_lt.mpr lt]
      have : (2 * num : ℚ) < den := by exact_mod_cast lt
      exact ⟨some, by rw [div_lt_div_iff₀ pos two_pos]; linarith⟩
    · rw [Nat.compare_eq_eq.mpr eq]
      have : (2 * num : ℚ) = den := by exact_mod_cast eq
      exact (div_eq_div_iff pos.ne' two_ne_zero).mpr (by linarith)
    · rw [Nat.compare_eq_gt.mpr gt]
      have : (den : ℚ) < 2 * num := by exact_mod_cast gt
      exact ⟨by rw [div_lt_div_iff₀ two_pos pos]; linarith, less⟩

theorem divCore_fine {m₁ m₂ k : ℕ} {e : ℤ} (pos₁ : m₁ ≠ 0) (pos₂ : m₂ ≠ 0)
    (h : e ≤ -1074 ∨ 53 + m₂.log2 ≤ m₁.log2 + k) :
    e ≤ max ((m₁ * 2 ^ k / m₂).log2 + e - 52) (-1074) := by
  obtain least | bits := h
  · exact le_max_of_le_right least
  · have quotient : 2 ^ 52 ≤ m₁ * 2 ^ k / m₂ := by
      refine (Nat.le_div_iff_mul_le (Nat.pos_of_ne_zero pos₂)).mpr ?_
      calc
        2 ^ 52 * m₂ ≤ 2 ^ 52 * 2 ^ (m₂.log2 + 1) := Nat.mul_le_mul_left _ Nat.lt_log2_self.le
        _ = 2 ^ (53 + m₂.log2) := by rw [← Nat.pow_add]; congr 1; omega
        _ ≤ 2 ^ (m₁.log2 + k) := Nat.pow_le_pow_right two_pos bits
        _ = 2 ^ m₁.log2 * 2 ^ k := Nat.pow_add ..
        _ ≤ m₁ * 2 ^ k := Nat.mul_le_mul_right _ (Nat.log2_self_le pos₁)
    have := (Nat.le_log2 (by omega)).mpr quotient
    omega

theorem divCore_spec {m₁ m₂ m : ℕ} {e₁ e₂ e : ℤ} {a : Accuracy} (pos₁ : m₁ ≠ 0) (pos₂ : m₂ ≠ 0)
    (h : divCore Format.binary64 m₁ e₁ m₂ e₂ = (m, e, a)) :
    ∃ x : ℚ, Tells a (x - m) ∧ x * 2 ^ e = m₁ * 2 ^ e₁ / (m₂ * 2 ^ e₂) ∧
      e ≤ max (m.log2 + e - 52) (-1074) := by
  simp only [divCore, targetExponent_eq, totalExponent, Prod.mk.injEq, Nat.shiftLeft_eq] at h
  generalize hk : (e₁ - e₂ - min (e₁ - e₂)
    (max (m₁.log2 + 1 + e₁ - (m₂.log2 + 1 + e₂) - 53) (-1074))).toNat = k at h
  obtain ⟨rfl, exponent, rfl⟩ := h
  have low : e = e₁ - e₂ - k := by omega
  have divisor : (m₂ : ℚ) ≠ 0 := Nat.cast_ne_zero.mpr pos₂
  refine ⟨(m₁ * 2 ^ k : ℕ) / m₂, ?_, ?_, divCore_fine pos₁ pos₂ (by omega)⟩
  · have whole : ((m₁ * 2 ^ k : ℕ) : ℚ) =
        m₂ * (m₁ * 2 ^ k / m₂ : ℕ) + (m₁ * 2 ^ k % m₂ : ℕ) := by
      exact_mod_cast (Nat.div_add_mod (m₁ * 2 ^ k) m₂).symm
    rw [whole, add_div, mul_div_cancel_left₀ _ divisor, add_sub_cancel_left]
    exact tells_accuracyOfFraction (Nat.mod_lt _ (Nat.pos_of_ne_zero pos₂))
  · rw [low, zpow_sub₀ two_ne_zero, zpow_sub₀ two_ne_zero, zpow_natCast]
    push_cast
    field_simp

theorem Canonical.div {u v : UnpackedFloat} {s₁ s₂ : Sign} {n₁ n₂ : ℕ} (hu : Canonical u s₁ n₁)
    (hv : Canonical v s₂ n₂) (nonzero : n₂ ≠ 0) :
    Rounds (ofModel (.pack (UnpackedFloat.div Format.binary64 u v))) (s₁ / s₂)
      (size n₁ / size n₂) := by
  cases hv with
  | zero => exact absurd rfl nonzero
  | @finite _ t₂ m₂ pos₂ lead₂ bound₂ =>
    cases hu with
    | zero =>
      rw [size_zero, zero_div]
      exact rounds_zero _
    | @finite _ t₁ m₁ pos₁ lead₁ bound₁ =>
      obtain ⟨⟨m, e, a⟩, h⟩ : ∃ q, divCore Format.binary64 m₁ (t₁ - 1074) m₂ (t₂ - 1074) = q :=
        ⟨_, rfl⟩
      obtain ⟨x, tells, same, fine⟩ := divCore_spec pos₁.ne' pos₂.ne' h
      obtain ⟨n, nearest, canonical⟩ := roundWithAccuracy_canonical (s₁ / s₂) tells fine
      rw [same] at nearest
      rw [(Steps.mk rfl lead₁ bound₁.le).size_eq, (Steps.mk rfl lead₂ bound₂.le).size_eq]
      have divided : UnpackedFloat.div Format.binary64 (.finite s₁ m₁ (t₁ - 1074) pos₁)
          (.finite s₂ m₂ (t₂ - 1074) pos₂) = roundWithAccuracy Format.binary64 (s₁ / s₂) m e a := by
        change (match divCore Format.binary64 m₁ (t₁ - 1074) m₂ (t₂ - 1074) with
          | (m, e, a) => roundWithAccuracy Format.binary64 (s₁ / s₂) m e a) = _
        rw [h]
      rw [divided]
      exact canonical.rounds nearest

theorem log2_mul_two_pow {m : ℕ} (pos : m ≠ 0) (k : ℕ) : (m * 2 ^ k).log2 = m.log2 + k := by
  induction k with
  | zero => rw [Nat.pow_zero, Nat.mul_one, Nat.add_zero]
  | succ k ih =>
    have double : m * 2 ^ (k + 1) = 2 * (m * 2 ^ k) := by ring
    rw [double, Nat.log2_two_mul (Nat.mul_ne_zero pos (Nat.two_pow_pos k).ne'), ih, Nat.add_assoc]

theorem round_canonical (s : Sign) {m : ℕ} (e : ℤ) (pos : m ≠ 0) :
    ∃ n, Nearest n (m * 2 ^ e) ∧ Canonical (UnpackedFloat.round Format.binary64 s m e) s n := by
  obtain ⟨k, hk⟩ : ∃ k, (e - max (m.log2 + 1 + e - 53) (-1074)).toNat = k := ⟨_, rfl⟩
  have fine : e - k ≤ max ((m * 2 ^ k).log2 + (e - k) - 52) (-1074) := by
    rw [log2_mul_two_pow pos]
    push_cast
    omega
  have tells : Tells .exact (((m * 2 ^ k : ℕ) : ℚ) - (m * 2 ^ k : ℕ)) := sub_self _
  obtain ⟨n, nearest, canonical⟩ := roundWithAccuracy_canonical s tells fine
  refine ⟨n, ?_, ?_⟩
  · have same : ((m * 2 ^ k : ℕ) : ℚ) * 2 ^ (e - k : ℤ) = m * 2 ^ e := by
      rw [zpow_sub₀ two_ne_zero, zpow_natCast]
      push_cast
      field_simp
    exact same ▸ nearest
  · simp only [UnpackedFloat.round, decreaseExponent, targetExponent_eq, totalExponent, hk,
      Nat.shiftLeft_eq]
    exact canonical

theorem normalize_rounds (m e : ℤ) :
    Rounds (ofModel (.pack (UnpackedFloat.normalize Format.binary64 m e .positive)))
      (signOf (m * 2 ^ e)) |m * 2 ^ e| := by
  have unit : (0 : ℚ) < 2 ^ e := zpow_pos two_pos e
  unfold UnpackedFloat.normalize
  obtain negative | rfl | positive := lt_trichotomy m 0
  · obtain ⟨n, nearest, canonical⟩ := round_canonical .negative e (by omega : (-m).toNat ≠ 0)
    have below : (m * 2 ^ e : ℚ) < 0 := mul_neg_of_neg_of_pos (Int.cast_lt_zero.mpr negative) unit
    have natural : ((-m).toNat : ℚ) = -m := by exact_mod_cast Int.toNat_of_nonneg (by omega : 0 ≤ -m)
    rw [natural, neg_mul, ← abs_of_neg below] at nearest
    rw [Int.compare_eq_lt.mpr negative, signOf, if_pos below]
    exact canonical.rounds nearest
  · rw [Int.cast_zero, zero_mul, abs_zero, signOf, if_neg (lt_irrefl 0)]
    exact rounds_zero _
  · obtain ⟨n, nearest, canonical⟩ := round_canonical .positive e (by omega : m.toNat ≠ 0)
    have above : (0 : ℚ) < m * 2 ^ e := mul_pos (Int.cast_pos.mpr positive) unit
    have natural : (m.toNat : ℚ) = m := by exact_mod_cast Int.toNat_of_nonneg positive.le
    rw [natural, ← abs_of_pos above] at nearest
    rw [Int.compare_eq_gt.mpr positive, signOf, if_neg above.not_gt]
    exact canonical.rounds nearest

theorem signed_apply (s : Sign) (m : ℕ) (e : ℤ) :
    ((s.apply m : ℤ) : ℚ) * 2 ^ e = signed s (m * 2 ^ e) := by
  cases s
  · rw [Sign.apply, signed, Int.cast_neg, Int.cast_natCast, neg_mul]
  · rw [Sign.apply, signed, Int.cast_natCast]

theorem decreaseExponent_eq {m : ℕ} {e t : ℤ} (h : t ≤ e) :
    ((decreaseExponent m e t).1 : ℚ) * 2 ^ t = m * 2 ^ e := by
  obtain ⟨k, rfl⟩ := Int.le.dest h
  have shift : (t + k - t).toNat = k := by omega
  rw [decreaseExponent, shift, Nat.shiftLeft_eq, zpow_add₀ two_ne_zero, zpow_natCast]
  push_cast
  ring

/-- A sum of numbers is rounded to the nearest double; it is no negative zero if the first number is
not negative. -/
theorem Canonical.add {u v : UnpackedFloat} {s : Sign} {n₁ n₂ : ℕ} (hu : Canonical u .positive n₁)
    (hv : Canonical v s n₂) :
    Rounds (ofModel (.pack (UnpackedFloat.add Format.binary64 u v)))
      (signOf (size n₁ + signed s (size n₂))) |size n₁ + signed s (size n₂)| := by
  cases hu with
  | zero =>
    rw [size_zero, zero_add]
    cases hv with
    | zero =>
      have sum : UnpackedFloat.add Format.binary64 (.zero .positive) (.zero s) = .zero .positive := by
        cases s <;> rfl
      rw [sum, size_zero, signed_zero, abs_zero, signOf, if_neg (lt_irrefl 0)]
      exact rounds_zero _
    | @finite _ t m pos lead bound =>
      have far := size_pos (n := t * leadingBit + m) (by omega)
      rw [signOf_signed s far, abs_signed s far.le]
      exact (Canonical.finite lead bound).rounds (nearest_size _)
  | @finite _ t₁ m₁ pos₁ lead₁ bound₁ =>
    cases hv with
    | zero =>
      have far := size_pos (n := t₁ * leadingBit + m₁) (by omega)
      rw [size_zero, signed_zero, add_zero, abs_of_pos far, signOf, if_neg far.not_gt]
      exact (Canonical.finite lead₁ bound₁).rounds (nearest_size _)
    | @finite _ t₂ m₂ pos₂ lead₂ bound₂ =>
      rw [(Steps.mk rfl lead₁ bound₁.le).size_eq, (Steps.mk rfl lead₂ bound₂.le).size_eq,
        ← decreaseExponent_eq (min_le_left ((t₁ : ℤ) - 1074) (t₂ - 1074)),
        ← decreaseExponent_eq (min_le_right ((t₁ : ℤ) - 1074) (t₂ - 1074)), ← signed_apply, ← add_mul]
      have rounded := normalize_rounds (Sign.positive.apply
        (decreaseExponent m₁ (t₁ - 1074) (min (t₁ - 1074) (t₂ - 1074))).1 + s.apply
        (decreaseExponent m₂ (t₂ - 1074) (min (t₁ - 1074) (t₂ - 1074))).1)
        (min (t₁ - 1074) (t₂ - 1074))
      rw [Int.cast_add] at rounded
      exact rounded

def nan : Binary64 := ofModel (.pack .notANumber)

variable {f g a : Float}

theorem div_of_isNaN (h : (ofFloat f).isNaN = true ∨ (ofFloat a).isNaN = true) :
    ofFloat (f / a) = nan := by
  have quotient : UnpackedFloat.div Format.binary64 f.toModel.unpack a.toModel.unpack =
      .notANumber := by
    obtain h | h := h <;> rw [unpack_of_isNaN h]
    · rfl
    · cases f.toModel.unpack <;> rfl
  exact congrArg (ofModel ∘ .pack) quotient

theorem add_of_isNaN (h : (ofFloat f).isNaN = true ∨ (ofFloat g).isNaN = true) :
    ofFloat (f + g) = nan := by
  have sum : UnpackedFloat.add Format.binary64 f.toModel.unpack g.toModel.unpack = .notANumber := by
    obtain h | h := h <;> rw [unpack_of_isNaN h]
    · rfl
    · cases f.toModel.unpack <;> rfl
  exact congrArg (ofModel ∘ .pack) sum

theorem canonical_toModel (hf : (ofFloat f).isFinite = true) :
    Canonical f.toModel.unpack (ofFloat f).sign (ofFloat f).magnitude := canonical_unpack hf

theorem div_rounds (hf : (ofFloat f).isFinite = true) (ha : (ofFloat a).isFinite = true)
    (nonzero : (ofFloat a).magnitude ≠ 0) :
    Rounds (ofFloat (f / a)) ((ofFloat f).sign / (ofFloat a).sign)
      (size (ofFloat f).magnitude / size (ofFloat a).magnitude) :=
  (canonical_toModel hf).div (canonical_toModel ha) nonzero

theorem div_of_infinite (hf : (ofFloat f).isFinite = true)
    (ha : (ofFloat a).magnitude = infinite) :
    Rounds (ofFloat (f / a)) ((ofFloat f).sign / (ofFloat a).sign) 0 := by
  have quotient : UnpackedFloat.div Format.binary64 f.toModel.unpack a.toModel.unpack =
      .zero ((ofFloat f).sign / (ofFloat a).sign) := by
    have unpacked := canonical_toModel hf
    rw [unpack_of_infinite ha]
    generalize f.toModel.unpack = u, (ofFloat f).sign = s, (ofFloat f).magnitude = n at unpacked ⊢
    cases unpacked <;> rfl
  have zero := rounds_zero ((ofFloat f).sign / (ofFloat a).sign)
  rw [← quotient] at zero
  exact zero

theorem Canonical.eq_zero {u : UnpackedFloat} {s : Sign} {n : ℕ} (h : Canonical u s n)
    (zero : n = 0) : u = .zero s := by
  cases h with
  | zero => rfl
  | finite lead bound => omega

theorem div_of_zero (hf : (ofFloat f).isFinite = true) (ha : (ofFloat a).magnitude = 0) :
    ofFloat (f / a) = nan ∨ (ofFloat (f / a)).sign = (ofFloat f).sign / (ofFloat a).sign ∧
      (ofFloat (f / a)).magnitude = infinite := by
  have finite : (ofFloat a).isFinite = true := isFinite_iff.mpr (by omega)
  have dividend := canonical_toModel hf
  have divisor : a.toModel.unpack = .zero (ofFloat a).sign := (canonical_toModel finite).eq_zero ha
  have unpacked : ofFloat (f / a) = ofModel (.pack (UnpackedFloat.div Format.binary64
    f.toModel.unpack a.toModel.unpack)) := rfl
  rw [unpacked, divisor]
  generalize f.toModel.unpack = u, (ofFloat f).sign = s, (ofFloat f).magnitude = n at dividend
  cases dividend with
  | zero => exact .inl rfl
  | finite lead bound => exact .inr (infinity_eq _)

theorem add_rounds (hf : (ofFloat f).isFinite = true) (hg : (ofFloat g).isFinite = true)
    (positive : (ofFloat f).sign = .positive) :
    Rounds (ofFloat (f + g)) (signOf ((ofFloat f).value + (ofFloat g).value))
      |(ofFloat f).value + (ofFloat g).value| := by
  have first := canonical_toModel hf
  rw [positive] at first
  rw [value_eq_signed, value_eq_signed, positive]
  exact first.add (canonical_toModel hg)

theorem toFloat_rounds (n : UInt64) : Rounds (ofFloat n.toFloat) .positive n.toNat := by
  have rounded := normalize_rounds n.toNat 0
  have nonneg : (0 : ℚ) ≤ n.toNat := Nat.cast_nonneg _
  rw [zpow_zero, mul_one, Int.cast_natCast, abs_of_nonneg nonneg, signOf, if_neg nonneg.not_gt]
    at rounded
  exact rounded

theorem neg_eq (hf : (ofFloat f).isFinite = true) :
    (ofFloat (-f)).sign = -(ofFloat f).sign ∧ (ofFloat (-f)).magnitude = (ofFloat f).magnitude := by
  have unpacked := canonical_toModel hf
  have negated : Canonical f.toModel.unpack.neg (-(ofFloat f).sign) (ofFloat f).magnitude := by
    generalize f.toModel.unpack = u, (ofFloat f).sign = s, (ofFloat f).magnitude = n at unpacked
    cases unpacked with
    | zero => exact .zero
    | finite lead bound => exact .finite lead bound
  obtain ⟨signed, steps⟩ := pack_canonical negated
  have within : (ofFloat f).magnitude ≤ infinite := (isFinite_iff.mp hf).le
  exact ⟨signed, steps.trans (Nat.min_eq_left within)⟩

theorem compare_zero (f : Float) :
    f.toModel.unpack.compare (.zero .positive) =
      if (ofFloat f).isNaN then none
      else if (ofFloat f).magnitude = 0 then some .eq
      else match (ofFloat f).sign with
        | .negative => some .lt
        | .positive => some .gt := by
  cases number : (ofFloat f).isNaN
  · cases finite : (ofFloat f).isFinite
    · have far := magnitude_of_infinite number finite
      have unpacked : f.toModel.unpack = .infinity (ofFloat f).sign := unpack_of_infinite far
      rw [unpacked, far]
      cases (ofFloat f).sign <;> rfl
    · have unpacked := canonical_toModel finite
      generalize f.toModel.unpack = u, (ofFloat f).sign = s, (ofFloat f).magnitude = n at unpacked ⊢
      cases unpacked with
      | zero => rfl
      | @finite _ t m pos lead bound =>
        rw [if_neg Bool.false_ne_true, if_neg (by omega)]
        cases s <;> rfl
  · rw [unpack_of_isNaN number]
    rfl

theorem beq_zero_iff : (f == 0.0) = true ↔ (ofFloat f).magnitude = 0 := by
  have compared : (f == 0.0) = (f.toModel.unpack.compare (.zero .positive) == some .eq) := rfl
  rw [compared, compare_zero]
  split
  · rename_i number
    have := isNaN_iff.mp number
    exact iff_of_false Bool.false_ne_true (by omega)
  · split
    · rename_i zero
      exact iff_of_true rfl zero
    · rename_i nonzero
      exact iff_of_false (by cases (ofFloat f).sign <;> exact Bool.false_ne_true) nonzero

theorem lt_zero_iff : f < 0.0 ↔ (ofFloat f).isNaN = false ∧ (ofFloat f).magnitude ≠ 0 ∧
    (ofFloat f).sign = .negative := by
  have compared : f < 0.0 ↔
      (f.toModel.unpack.compare (.zero .positive) == some .lt) = true := decide_eq_true_iff
  rw [compared, compare_zero]
  cases number : (ofFloat f).isNaN <;> by_cases zero : (ofFloat f).magnitude = 0 <;>
    cases (ofFloat f).sign <;> simp [zero]

end ForumDigest.Binary64
