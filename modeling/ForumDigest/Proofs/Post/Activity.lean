import ForumDigest.Proofs.Binary64.Monotone
import ForumDigest.Proofs.Post.Order
import ForumDigest.Proofs.Post.Rating

open Float.Model.UnpackedFloat

namespace ForumDigest

namespace Engagement

open Binary64

/-- A whole number of 64 bits as a double: zero, or at least one, and at most `2 ^ 64`. -/
structure Whole (x : Binary64) : Prop where
  most : x.magnitude ≤ 1087 * leadingBit
  least : x.magnitude = 0 ∨ 1023 * leadingBit ≤ x.magnitude

def Sizable (x : Binary64) : Prop := x.magnitude = 0 ∨ 959 * leadingBit ≤ x.magnitude

def Moderate (x : Binary64) : Prop := x.magnitude ≤ 1151 * leadingBit

theorem Moderate.isFinite {x : Binary64} (h : Moderate x) : x.isFinite = true := by
  unfold Moderate leadingBit at h
  exact isFinite_iff.mpr (by omega)

theorem Whole.isFinite {x : Binary64} (h : Whole x) : x.isFinite = true := by
  have := h.most
  unfold leadingBit at this
  exact isFinite_iff.mpr (by omega)

theorem Whole.of_rounds {x : Binary64} {s : Sign} {n : ℕ} (h : Rounds x s n)
    (bound : n ≤ 18446744073709551616) : Whole x where
  most := by
    refine h.magnitude_le ?_
    rw [size_power (by decide)]
    calc
      (n : ℚ) ≤ (18446744073709551616 : ℕ) := Nat.cast_le.mpr bound
      _ = 2 ^ ((1087 : ℕ) - 1023 : ℤ) := by norm_num
  least := by
    by_cases zero : n = 0
    · subst zero
      exact .inl (Nat.cast_zero (R := ℚ) ▸ h).magnitude_of_zero
    · refine .inr (h.le_magnitude (by decide) ?_)
      rw [size_power (by decide)]
      calc
        (2 ^ ((1023 : ℕ) - 1023 : ℤ) : ℚ) = (1 : ℕ) := by norm_num
        _ ≤ n := Nat.cast_le.mpr (Nat.pos_of_ne_zero zero)

theorem whole_toFloat (n : UInt64) : Whole (ofFloat n.toFloat) :=
  .of_rounds (toFloat_rounds n) n.toNat_lt.le

theorem double_rounds (n : Int64) :
    Rounds (ofFloat (double n)) (signOf n.toInt) |(n.toInt : ℚ)| := by
  have low := n.le_toInt
  have high := n.toInt_lt
  have rounded := toFloat_rounds (UInt64.ofNat n.toInt.natAbs)
  have whole := whole_toFloat (UInt64.ofNat n.toInt.natAbs)
  have below : n < 0 ↔ (n.toInt : ℚ) < 0 := by
    rw [Int64.lt_iff_toInt_lt, Int.cast_lt_zero]
    rfl
  rw [UInt64.toNat_ofNat_of_lt' (by unfold UInt64.size; omega), Nat.cast_natAbs, Int.cast_abs]
    at rounded
  unfold double signOf
  split
  · rename_i negative
    obtain ⟨signed, steps⟩ := neg_eq whole.isFinite
    rw [if_pos (below.mp negative)]
    exact ⟨signed.trans (congrArg _ rounded.sign), steps ▸ rounded.steps⟩
  · rename_i nonneg
    rw [if_neg (mt below.mpr nonneg)]
    exact rounded

theorem whole_double (n : Int64) : Whole (ofFloat (double n)) := by
  have low := n.le_toInt
  have high := n.toInt_lt
  have rounded := double_rounds n
  rw [← Int.cast_abs, ← Nat.cast_natAbs] at rounded
  exact .of_rounds rounded (by omega)

theorem toFloat_rank_le {n m : UInt64} (h : n ≤ m) :
    (ofFloat n.toFloat).rank ≤ (ofFloat m.toFloat).rank := by
  have le := (toFloat_rounds n).magnitude_mono (toFloat_rounds m)
    (Nat.cast_le.mpr (UInt64.le_iff_toNat_le.mp h))
  rw [rank_eq, rank_eq (ofFloat m.toFloat), (toFloat_rounds n).sign, (toFloat_rounds m).sign]
  exact Int.ofNat_le.mpr le

theorem double_rank_le {n m : Int64} (h : n ≤ m) :
    (ofFloat (double n)).rank ≤ (ofFloat (double m)).rank :=
  (double_rounds n).rank_le (double_rounds m) (Int.cast_le.mpr (Int64.le_iff_toInt_le.mp h))

variable {t n v w a : Float}

theorem average_sizable (ht : Whole (ofFloat t)) (hn : Whole (ofFloat n)) :
    Sizable (ofFloat (t / n)) := by
  by_cases none : (ofFloat n).magnitude = 0
  · right
    obtain void | ⟨-, far⟩ := div_of_zero ht.isFinite none
    · rw [void]
      decide +kernel
    · rw [far]
      decide
  · have rounded := div_rounds ht.isFinite hn.isFinite none
    obtain zero | some := ht.least
    · rw [zero, size_zero, zero_div] at rounded
      exact .inl rounded.magnitude_of_zero
    · refine .inr (rounded.le_magnitude (by decide) ?_)
      rw [le_div_iff₀ (size_pos none)]
      calc
        size (959 * leadingBit) * size (ofFloat n).magnitude
            ≤ size (959 * leadingBit) * size (1087 * leadingBit) :=
          mul_le_mul_of_nonneg_left (size_strictMono.monotone hn.most) (size_nonneg _)
        _ = size (1023 * leadingBit) := by
          rw [size_power (by decide), size_power (by decide), size_power (by decide),
            ← zpow_add₀ two_ne_zero]
          norm_num
        _ ≤ size (ofFloat t).magnitude := size_strictMono.monotone some

theorem ratio_of_zero (h : (ofFloat a).magnitude = 0) : ratio v a = 0.0 :=
  if_pos (beq_zero_iff.mpr h)

theorem ratio_of_nonzero (h : (ofFloat a).magnitude ≠ 0) : ratio v a = v / a :=
  if_neg (mt beq_zero_iff.mp h)

theorem ratio_moderate (hv : Whole (ofFloat v)) (number : (ofFloat a).isNaN = false)
    (ha : Sizable (ofFloat a)) : Moderate (ofFloat (ratio v a)) := by
  obtain zero | least := ha
  · rw [ratio_of_zero zero, Moderate]
    decide +kernel
  · have nonzero : (ofFloat a).magnitude ≠ 0 := by
      unfold leadingBit at least
      omega
    rw [ratio_of_nonzero nonzero]
    cases finite : (ofFloat a).isFinite
    · have rounded := div_of_infinite hv.isFinite (magnitude_of_infinite number finite)
      exact rounded.magnitude_of_zero.trans_le (Nat.zero_le _)
    · refine (div_rounds hv.isFinite finite nonzero).magnitude_le ?_
      rw [div_le_iff₀ (size_pos nonzero)]
      calc
        size (ofFloat v).magnitude ≤ size (1087 * leadingBit) := size_strictMono.monotone hv.most
        _ = size (1151 * leadingBit) * size (959 * leadingBit) := by
          rw [size_power (by decide), size_power (by decide), size_power (by decide),
            ← zpow_add₀ two_ne_zero]
          norm_num
        _ ≤ size (1151 * leadingBit) * size (ofFloat a).magnitude :=
          mul_le_mul_of_nonneg_left (size_strictMono.monotone least) (size_nonneg _)

theorem ratio_of_isNaN (h : (ofFloat a).isNaN = true) : ofFloat (ratio v a) = nan := by
  have nonzero : (ofFloat a).magnitude ≠ 0 := by
    have := isNaN_iff.mp h
    omega
  rw [ratio_of_nonzero nonzero, div_of_isNaN (.inr h)]

theorem ratio_sign (hv : Whole (ofFloat v)) (number : (ofFloat a).isNaN = false)
    (positive : (ofFloat a).sign = .positive) (nonneg : (ofFloat v).sign = .positive) :
    (ofFloat (ratio v a)).sign = .positive := by
  by_cases zero : (ofFloat a).magnitude = 0
  · rw [ratio_of_zero zero]
    rfl
  · rw [ratio_of_nonzero zero, sign_div hv.isFinite (number_div hv.isFinite number zero), positive,
      nonneg]
    rfl

theorem ratio_rank_le (hv : Whole (ofFloat v)) (hw : Whole (ofFloat w))
    (number : (ofFloat a).isNaN = false) (nonneg : ¬ a < 0.0)
    (h : (ofFloat v).rank ≤ (ofFloat w).rank) :
    (ofFloat (ratio v a)).rank ≤ (ofFloat (ratio w a)).rank := by
  by_cases zero : (ofFloat a).magnitude = 0
  · rw [ratio_of_zero zero, ratio_of_zero zero]
  · rw [ratio_of_nonzero zero, ratio_of_nonzero zero]
    refine div_rank_le hv.isFinite hw.isFinite number zero h ?_
    cases sign : (ofFloat a).sign with
    | negative => exact absurd (lt_zero_iff.mpr ⟨number, zero, sign⟩) nonneg
    | positive => rfl

theorem ratio_rank_ge (hv : Whole (ofFloat v)) (hw : Whole (ofFloat w)) (negative : a < 0.0)
    (h : (ofFloat v).rank ≤ (ofFloat w).rank) :
    (ofFloat (ratio w a)).rank ≤ (ofFloat (ratio v a)).rank := by
  obtain ⟨number, nonzero, sign⟩ := lt_zero_iff.mp negative
  rw [ratio_of_nonzero nonzero, ratio_of_nonzero nonzero]
  exact div_rank_ge hv.isFinite hw.isFinite number nonzero h sign

theorem sum_isFinite {c s : Float} (hc : Moderate (ofFloat c)) (hs : Moderate (ofFloat s))
    (nonneg : (ofFloat c).sign = .positive) : (ofFloat (c + s)).isFinite = true := by
  have most : (ofFloat (c + s)).magnitude ≤ 1152 * leadingBit := by
    refine (add_rounds hc.isFinite hs.isFinite nonneg).magnitude_le ?_
    calc
      |(ofFloat c).value + (ofFloat s).value| ≤ |(ofFloat c).value| + |(ofFloat s).value| :=
        abs_add_le _ _
      _ ≤ size (1151 * leadingBit) + size (1151 * leadingBit) := by
        rw [abs_value, abs_value]
        exact add_le_add (size_strictMono.monotone hc) (size_strictMono.monotone hs)
      _ = size (1152 * leadingBit) := by
        rw [size_power (by decide), size_power (by decide)]
        norm_num
  unfold leadingBit at most
  exact isFinite_iff.mpr (by omega)

theorem mean_rank_le {c s c' s' : Float} (hc : Moderate (ofFloat c)) (hs : Moderate (ofFloat s))
    (hc' : Moderate (ofFloat c')) (hs' : Moderate (ofFloat s'))
    (nonneg : (ofFloat c).sign = .positive) (nonneg' : (ofFloat c').sign = .positive)
    (le : (ofFloat c).rank ≤ (ofFloat c').rank) (le' : (ofFloat s).rank ≤ (ofFloat s').rank) :
    (ofFloat ((c + s) / 2.0)).rank ≤ (ofFloat ((c' + s') / 2.0)).rank := by
  have sums : (ofFloat (c + s)).rank ≤ (ofFloat (c' + s')).rank :=
    add_rank_le hc.isFinite hs.isFinite hc'.isFinite hs'.isFinite nonneg nonneg' le le'
  have number : (ofFloat 2.0).isNaN = false := by decide +kernel
  have nonzero : (ofFloat 2.0).magnitude ≠ 0 := by decide +kernel
  exact div_rank_le (sum_isFinite hc hs nonneg) (sum_isFinite hc' hs' nonneg') number nonzero sums rfl

theorem mean_of_isNaN {c s : Float} (h : (ofFloat c).isNaN = true ∨ (ofFloat s).isNaN = true) :
    ofFloat ((c + s) / 2.0) = nan := by
  refine div_of_isNaN (.inl ?_)
  rw [add_of_isNaN h]
  exact isNaN_nan

/-- What holds of the averages of any list: they come from whole numbers of 64 bits, so none is so
small that a ratio to it is beyond all doubles. -/
structure Averages.Regular (a : Averages) : Prop where
  comments : Sizable (ofFloat a.comments)
  score : Sizable (ofFloat a.score)
  nonneg : (ofFloat a.comments).isNaN = false → (ofFloat a.comments).sign = .positive

theorem averages_regular (ps : List Post) : (averages ps).Regular where
  comments := average_sizable (whole_toFloat _) (whole_toFloat _)
  score := average_sizable (whole_double _) (whole_toFloat _)
  nonneg number := by
    refine (sign_div (whole_toFloat _).isFinite number).trans ?_
    rw [(toFloat_rounds _).sign, (toFloat_rounds _).sign]
    rfl

theorem commentRatio_le (a : Float) {c c' : UInt32} (number : (ofFloat a).isNaN = false)
    (nonneg : (ofFloat a).sign = .positive) (le : c ≤ c') :
    (ofFloat (ratio (UInt64.ofNat c.toNat).toFloat a)).rank ≤
      (ofFloat (ratio (UInt64.ofNat c'.toNat).toFloat a)).rank := by
  refine ratio_rank_le (whole_toFloat _) (whole_toFloat _) number ?_ (toFloat_rank_le ?_)
  · intro negative
    rw [(lt_zero_iff.mp negative).2.2] at nonneg
    cases nonneg
  · have := c.toNat_lt
    have := c'.toNat_lt
    rw [UInt64.le_iff_toNat_le, UInt64.toNat_ofNat_of_lt' (by unfold UInt64.size; omega),
      UInt64.toNat_ofNat_of_lt' (by unfold UInt64.size; omega)]
    exact UInt32.le_iff_toNat_le.mp le

theorem double_score_le {s s' : Int32} (le : s ≤ s') :
    (ofFloat (double (Int64.ofInt s.toInt))).rank ≤
      (ofFloat (double (Int64.ofInt s'.toInt))).rank := by
  have same (s : Int32) : (Int64.ofInt s.toInt).toInt = s.toInt := by
    have := s.le_toInt
    have := s.toInt_lt
    exact Int64.toInt_ofInt_of_le (by omega) (by omega)
  refine double_rank_le ?_
  rw [Int64.le_iff_toInt_le, same, same]
  exact Int32.le_iff_toInt_le.mp le

theorem scoreRatio_le (a : Float) {s s' : Int32} (number : (ofFloat a).isNaN = false)
    (le : if a < 0.0 then s' ≤ s else s ≤ s') :
    (ofFloat (ratio (double (Int64.ofInt s.toInt)) a)).rank ≤
      (ofFloat (ratio (double (Int64.ofInt s'.toInt)) a)).rank := by
  split at le
  · rename_i negative
    exact ratio_rank_ge (whole_double _) (whole_double _) negative (double_score_le le)
  · rename_i nonneg
    exact ratio_rank_le (whole_double _) (whole_double _) number nonneg (double_score_le le)

theorem of_rank_le {a : Averages} (ha : a.Regular) {c c' : UInt32} {s s' : Int32} (le : c ≤ c')
    (le' : if a.score < 0.0 then s' ≤ s else s ≤ s') : (of a c s).rank ≤ (of a c' s').rank := by
  have nothing (h : (ofFloat a.comments).isNaN = true ∨ (ofFloat a.score).isNaN = true)
      (c : UInt32) (s : Int32) : of a c s = nan := by
    refine mean_of_isNaN ?_
    refine h.imp (fun h => ?_) (fun h => ?_) <;> rw [ratio_of_isNaN h] <;> exact isNaN_nan
  cases hc : (ofFloat a.comments).isNaN
  · cases hs : (ofFloat a.score).isNaN
    · have positive := ha.nonneg hc
      exact mean_rank_le (ratio_moderate (whole_toFloat _) hc ha.comments)
        (ratio_moderate (whole_double _) hs ha.score) (ratio_moderate (whole_toFloat _) hc ha.comments)
        (ratio_moderate (whole_double _) hs ha.score)
        (ratio_sign (whole_toFloat _) hc positive (toFloat_rounds _).sign)
        (ratio_sign (whole_toFloat _) hc positive (toFloat_rounds _).sign)
        (commentRatio_le a.comments hc positive le) (scoreRatio_le a.score hs le')
    · rw [nothing (.inr hs), nothing (.inr hs)]
  · rw [nothing (.inl hc), nothing (.inl hc)]

end Engagement

namespace Post

/-- The rating of a list goes by `le`: what is more by it is rated as high at least, and never comes
behind what is less, unless both are rated alike. -/
structure RatedBy (ps : List Post) (le : Post → Post → Prop) : Prop where
  rises : ∀ p ∈ rate ps, ∀ q ∈ rate ps, le p q → p.engagement.Precedes q.engagement
  placed : (sortByEngagement (rate ps)).Pairwise fun p q => le p q → p.engagement = q.engagement

/-- As many comments at least, and as high a score. -/
def LessActive (p q : Post) : Prop := p.commentCount ≤ q.commentCount ∧ p.score ≤ q.score

/-- As many comments at least, and as high a score; as low a one against a negative average. -/
def LessFavored (ps : List Post) (p q : Post) : Prop :=
  p.commentCount ≤ q.commentCount ∧
    if (Engagement.averages ps).score < 0.0 then q.score ≤ p.score else p.score ≤ q.score

theorem engagement_of_mem_rate {ps : List Post} {p : Post} (h : p ∈ rate ps) :
    p.engagement = Engagement.of (Engagement.averages ps) p.commentCount p.score := by
  obtain ⟨q, -, rfl⟩ := List.mem_map.mp h
  rfl

/-- Posts of more comments are rated higher if their score is higher too, or lower where the average
score is negative. -/
theorem ratedBy_lessFavored (ps : List Post) : RatedBy ps (LessFavored ps) := by
  have rises : ∀ p ∈ rate ps, ∀ q ∈ rate ps, LessFavored ps p q →
      p.engagement.rank ≤ q.engagement.rank := by
    intro p hp q hq ⟨comments, score⟩
    rw [engagement_of_mem_rate hp, engagement_of_mem_rate hq]
    exact Engagement.of_rank_le (Engagement.averages_regular ps) comments score
  constructor
  · exact fun p hp q hq le => Binary64.precedes_iff.mpr (rises p hp q hq le)
  · have sorted := pairwise_sortByEngagement (rate ps)
    have same {p : Post} : p ∈ sortByEngagement (rate ps) → p ∈ rate ps :=
      (sortByEngagement_perm (rate ps)).mem_iff.mp
    refine sorted.imp_of_mem fun {p q} hp hq down le => ?_
    exact Binary64.rank_injective (le_antisymm (rises p (same hp) q (same hq) le) down)

def sampleDisliked (score : Int32) : Post := { empty with score }

/-- Of two posts voted down the one with the lower score is rated higher. -/
theorem not_ratedBy_lessActive_of_disliked :
    ¬ RatedBy [sampleDisliked (-1), sampleDisliked (-3)] LessActive := by
  intro h
  have rated : rate [sampleDisliked (-1), sampleDisliked (-3)] =
      [{ sampleDisliked (-1) with engagement := ⟨0x3FD0000000000000⟩ },
        { sampleDisliked (-3) with engagement := ⟨0x3FE8000000000000⟩ }] := by decide +kernel
  have rises := h.rises
  rw [rated] at rises
  have risen := rises { sampleDisliked (-3) with engagement := ⟨0x3FE8000000000000⟩ } (by simp)
    { sampleDisliked (-1) with engagement := ⟨0x3FD0000000000000⟩ } (by simp) ⟨by decide, by decide⟩
  exact absurd (Binary64.precedes_iff.mp risen) (by decide)

end Post

end ForumDigest
