import ForumDigest.Calendar.Instant
import Mathlib.Tactic.Common

namespace ForumDigest.Date

theorem daysBeforeYear_succ (y : Int) :
    daysBeforeYear (y + 1) = daysBeforeYear y + if isLeapYear y then 366 else 365 := by
  unfold daysBeforeYear
  split
  · rename_i leap
    simp only [isLeapYear, ne_eq, Bool.and_eq_true, decide_eq_true_eq, Bool.or_eq_true] at leap
    omega
  · rename_i common
    simp only [isLeapYear, ne_eq, Bool.and_eq_true, decide_eq_true_eq, Bool.or_eq_true] at common
    omega

theorem daysBeforeYear_mono {x y : Int} (h : x ≤ y) : daysBeforeYear x ≤ daysBeforeYear y := by
  unfold daysBeforeYear
  omega

theorem daysBeforeYear_yearOf (d : Int) :
    daysBeforeYear (yearOf d) ≤ d ∧ d < daysBeforeYear (yearOf d + 1) := by
  unfold yearOf
  dsimp only
  generalize hy : d * 400 / 146097 = y
  split
  · rename_i before
    rw [Int.sub_add_cancel]
    refine ⟨?_, before⟩
    unfold daysBeforeYear
    omega
  · rename_i begun
    split
    · rename_i after
      refine ⟨after, ?_⟩
      unfold daysBeforeYear
      omega
    · rename_i before
      exact ⟨Int.not_lt.mp begun, Int.not_le.mp before⟩

theorem sum_monthLengths (leap : Bool) :
    (monthLengths leap).foldr (· + ·) 0 = if leap then 366 else 365 := by
  cases leap <;> rfl

theorem monthLength_le (y : Int) (month : Nat) : monthLength y month ≤ 31 := by
  have all (leap : Bool) : ∀ n ∈ monthLengths leap, n ≤ 31 := by
    cases leap <;> decide
  rw [monthLength, List.getD_eq_getElem?_getD]
  cases h : (monthLengths (isLeapYear y))[month - 1]? with
  | none => decide
  | some n => exact all _ n (List.mem_of_getElem? h)

/-- Of months that follow the `month`-th, and together have more days than are past, one holds the
day: the months in front of it and the days in front of the day make up those past. -/
theorem inMonths_spec {lengths : List Nat} {month days : Nat} (h : days < lengths.foldr (· + ·) 0) :
    ∃ k, k < lengths.length ∧ (inMonths lengths month days).1 = month + k ∧
      1 ≤ (inMonths lengths month days).2 ∧
      (inMonths lengths month days).2 ≤ lengths.getD k 0 ∧
      days = (lengths.take k).foldr (· + ·) 0 + ((inMonths lengths month days).2 - 1) := by
  induction lengths generalizing month days with
  | nil => cases h
  | cons n lengths ih =>
    unfold inMonths
    split
    · refine ⟨0, by simp, rfl, ?_⟩
      simp
      omega
    · rw [List.foldr_cons] at h
      obtain ⟨k, hk, hm, least, most, sum⟩ := @ih (month + 1) (days - n) (by omega)
      refine ⟨k + 1, by simpa using hk, by omega, least, by simpa using most, ?_⟩
      rw [List.take_succ_cons, List.foldr_cons]
      omega

theorem year_ofDays (n : Int) : (ofDays n).year = yearOf (n + epochDay) := rfl

theorem exists_days (n : Int) : ∃ days : Nat, n + epochDay = daysBeforeYear (ofDays n).year + days ∧
    days < (monthLengths (isLeapYear (ofDays n).year)).foldr (· + ·) 0 ∧
    ((ofDays n).month, (ofDays n).day) =
      inMonths (monthLengths (isLeapYear (ofDays n).year)) 1 days := by
  obtain ⟨begun, ended⟩ := daysBeforeYear_yearOf (n + epochDay)
  rw [daysBeforeYear_succ] at ended
  rw [year_ofDays]
  refine ⟨(n + epochDay - daysBeforeYear (yearOf (n + epochDay))).toNat, by omega, ?_, rfl⟩
  rw [sum_monthLengths]
  split
  · rename_i leap
    rw [if_pos leap] at ended
    omega
  · rename_i common
    rw [if_neg common] at ended
    omega

theorem ofDays_spec (n : Int) :
    (1 ≤ (ofDays n).month ∧ (ofDays n).month ≤ 12) ∧
      (1 ≤ (ofDays n).day ∧ (ofDays n).day ≤ monthLength (ofDays n).year (ofDays n).month) ∧
      (ofDays n).toDays = n := by
  obtain ⟨days, count, few, found⟩ := exists_days n
  obtain ⟨k, hk, month, least, most, sum⟩ := @inMonths_spec _ 1 _ few
  rw [← found] at month least most sum
  dsimp only at month least most sum
  have before : (ofDays n).month - 1 = k := by omega
  have inYear : k < 12 := hk
  refine ⟨by omega, ⟨least, ?_⟩, ?_⟩
  · rw [monthLength, before]
    exact most
  · rw [toDays, before]
    omega

theorem toDays_ofDays (n : Int) : (ofDays n).toDays = n := (ofDays_spec n).2.2

theorem year_mem_iff (n : Int) :
    leastYear ≤ (ofDays n).year ∧ (ofDays n).year ≤ greatestYear ↔
      leastDay ≤ n ∧ n ≤ greatestDay := by
  obtain ⟨begun, ended⟩ := daysBeforeYear_yearOf (n + epochDay)
  rw [year_ofDays]
  constructor
  · rintro ⟨least, most⟩
    have first := daysBeforeYear_mono least
    have last := daysBeforeYear_mono (Int.add_le_add_right most 1)
    unfold leastDay greatestDay
    omega
  · unfold leastDay greatestDay
    rintro ⟨least, most⟩
    constructor
    · by_contra early
      have := daysBeforeYear_mono (x := yearOf (n + epochDay) + 1) (y := leastYear) (by omega)
      omega
    · by_contra late
      have := daysBeforeYear_mono (x := greatestYear + 1) (y := yearOf (n + epochDay)) (by omega)
      omega

theorem isValid_ofDays {n : Int}
    (h : leastYear ≤ (ofDays n).year ∧ (ofDays n).year ≤ greatestYear) :
    (ofDays n).isValid = true := by
  obtain ⟨⟨month, month'⟩, ⟨day, day'⟩, -⟩ := ofDays_spec n
  simp only [isValid, Bool.and_eq_true, decide_eq_true_eq]
  exact ⟨⟨⟨⟨⟨h.1, h.2⟩, month⟩, month'⟩, day⟩, day'⟩

end ForumDigest.Date

namespace ForumDigest.Instant

theorem inRange_iff (t : Instant) :
    inRange t.seconds = true ↔ Date.leastYear ≤ t.date.year ∧ t.date.year ≤ Date.greatestYear := by
  have days := Date.year_mem_iff (t.seconds / 86400)
  rw [date, days, inRange, Bool.and_eq_true, decide_eq_true_iff, decide_eq_true_iff, leastSecond,
    greatestSecond]
  omega

/-- `n` seconds can be counted in milliseconds of 64 bits, and the year that they lead to from `t`
can be told. -/
structure Admits (t : Instant) (n : Int) : Prop where
  countable : n.natAbs * 1000 < 0x8000000000000000
  least : Date.leastYear ≤ (date ⟨t.seconds + n, t.nanos⟩).year
  greatest : (date ⟨t.seconds + n, t.nanos⟩).year ≤ Date.greatestYear

theorem addSeconds?_eq_some_iff {t u : Instant} {n : Int} :
    t.addSeconds? n = some u ↔ t.Admits n ∧ u = ⟨t.seconds + n, t.nanos⟩ := by
  have range := inRange_iff ⟨t.seconds + n, t.nanos⟩
  unfold addSeconds?
  constructor
  · intro h
    split at h
    · rename_i admitted
      obtain ⟨least, greatest⟩ := range.mp admitted.2
      exact ⟨⟨by omega, least, greatest⟩, (Option.some.inj h).symm⟩
    · cases h
  · rintro ⟨⟨countable, least, greatest⟩, rfl⟩
    exact if_pos ⟨by omega, range.mpr ⟨least, greatest⟩⟩

theorem addSeconds?_eq_none_iff {t : Instant} {n : Int} :
    t.addSeconds? n = none ↔ ¬ t.Admits n := by
  constructor
  · intro h admitted
    have := addSeconds?_eq_some_iff.mpr ⟨admitted, rfl⟩
    rw [h] at this
    cases this
  · intro h
    cases sum : t.addSeconds? n with
    | none => rfl
    | some u => exact absurd (addSeconds?_eq_some_iff.mp sum).1 h

end ForumDigest.Instant
