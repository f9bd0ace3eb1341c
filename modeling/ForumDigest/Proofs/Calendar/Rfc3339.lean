import ForumDigest.Calendar.Rfc3339
import ForumDigest.Proofs.Calendar.Date
import ForumDigest.Proofs.Json.Lexical
import ForumDigest.Proofs.Text.Trim

namespace ForumDigest.Rfc3339

open Json (Digits Undigited)
open Text (trimStart isBlank)

variable {width n most low high : Nat} {ds rest : List Char}

theorem valueOf_eq (ds : List Char) : valueOf ds = Nat.ofDigitChars 10 ds 0 := by
  simp only [valueOf, Nat.ofDigitChars, Nat.mul_comm 10]
  rfl

theorem digits_padded (width n : Nat) : Digits (padded width n) where
  nonempty := by simp [padded]
  digits c hc := by
    rcases List.mem_append.mp hc with zero | digit
    · rw [List.eq_of_mem_replicate zero]
      decide
    · exact Nat.isDigit_of_mem_toDigits (by decide) (by decide) digit

theorem valueOf_padded (width n : Nat) : valueOf (padded width n) = n := by
  have zeros (k : Nat) (ds : List Char) :
      Nat.ofDigitChars 10 (List.replicate k '0' ++ ds) 0 = Nat.ofDigitChars 10 ds 0 := by
    induction k with
    | zero => rfl
    | succ k ih => exact ih
  rw [valueOf_eq, padded, zeros]
  exact Nat.ofDigitChars_toDigits (by decide) (by decide)

theorem length_padded (positive : 0 < width) (h : n < Nat.pow 10 width) :
    (padded width n).length = width := by
  have fits : (Nat.toDigits 10 n).length ≤ width :=
    (Nat.length_toDigits_le_iff (by decide) positive).mpr h
  rw [padded, List.length_append, List.length_replicate]
  omega

theorem number_digits (hd : Digits ds) (fits : ds.length ≤ most)
    (ends : ds.length = most ∨ Undigited rest) :
    number most (ds ++ rest) = .ok (valueOf ds, rest) := by
  have tail : Undigited (rest.take (most - ds.length)) := by
    obtain full | undigited := ends
    · rw [full, Nat.sub_self]
      rintro _ ⟨⟩
    · intro c hc
      rw [List.head?_take] at hc
      split at hc
      · cases hc
      · exact undigited c hc
  have front : ((ds ++ rest).take most).takeWhile Char.isDigit = ds := by
    rw [List.take_append, List.take_of_length_le fits, hd.takeWhile tail]
  obtain ⟨d, es, rfl⟩ := List.exists_cons_of_ne_nil hd.nonempty
  unfold number
  rw [front]
  simp

theorem isBlank_of_isDigit {c : Char} (h : c.isDigit = true) : isBlank c = false := by
  have bounds : 48 ≤ c.toNat ∧ c.toNat ≤ 57 := by
    simpa [Char.isDigit, UInt32.le_iff_toNat_le] using h
  simp only [isBlank, Bool.or_eq_false_iff, Bool.and_eq_false_iff, decide_eq_false_iff_not,
    beq_eq_false_iff_ne]
  omega

theorem trimStart_cons {c : Char} (h : isBlank c = false) (cs : List Char) :
    trimStart (c :: cs) = c :: cs :=
  Text.dropWhile_isBlank fun _ hd => Option.some.inj hd ▸ h

theorem trimStart_digits (hd : Digits ds) (rest : List Char) :
    trimStart (ds ++ rest) = ds ++ rest := by
  obtain ⟨d, es, rfl⟩ := List.exists_cons_of_ne_nil hd.nonempty
  exact trimStart_cons (isBlank_of_isDigit (hd.digits d List.mem_cons_self)) _

theorem bounded_padded (least : low ≤ n) (greatest : n ≤ high) (h : n < 100) (rest : List Char) :
    bounded low high (padded 2 n ++ rest) = .ok (n, rest) := by
  have two : (padded 2 n).length = 2 := length_padded (by decide) h
  unfold bounded
  rw [trimStart_digits (digits_padded 2 n),
    number_digits (digits_padded 2 n) (Nat.le_of_eq two) (.inl two), valueOf_padded]
  simp only [bind, Except.bind, least, greatest, and_self, if_true]
  rfl

theorem mark_cons {c : Char} (h : isBlank c = false) (rest : List Char) :
    mark c (c :: rest) = .ok rest := by
  rw [mark, trimStart_cons h]
  exact if_pos rfl

theorem year_minus (read : number ds.length ds = .ok (n, rest)) (h : n < 0x80000000) :
    year ('-' :: ds) = .ok (-(n : Int), rest) := by
  unfold year
  rw [trimStart_cons (by decide)]
  simp [read, bind, Except.bind, pure, Except.pure, h]

theorem year_plus (read : number ds.length ds = .ok (n, rest)) (h : n < 0x80000000) :
    year ('+' :: ds) = .ok ((n : Int), rest) := by
  unfold year
  rw [trimStart_cons (by decide)]
  simp [read, bind, Except.bind, pure, Except.pure, h]

theorem year_digits (hd : Digits ds) {tail : List Char}
    (read : number 4 (ds ++ tail) = .ok (n, rest)) (h : n < 0x80000000) :
    year (ds ++ tail) = .ok ((n : Int), rest) := by
  unfold year
  rw [trimStart_digits hd]
  obtain ⟨d, es, rfl⟩ := List.exists_cons_of_ne_nil hd.nonempty
  have digit := hd.digits d List.mem_cons_self
  have minus : d ≠ '-' := by
    rintro rfl
    exact absurd digit (by decide)
  have plus : d ≠ '+' := by
    rintro rfl
    exact absurd digit (by decide)
  rw [List.cons_append] at read ⊢
  simp [read, bind, Except.bind, pure, Except.pure, h, minus, plus]

theorem year_yearText {y : Int} (h : y.natAbs < 0x80000000) (rest : List Char) :
    year (yearText y ++ '-' :: rest) = .ok (y, '-' :: rest) := by
  have digits (most n : Nat) (fits : (padded 4 n).length ≤ most) :
      number most (padded 4 n ++ '-' :: rest) = .ok (n, '-' :: rest) := by
    have ends : Undigited ('-' :: rest) := by
      rintro _ ⟨⟩
      decide
    rw [number_digits (digits_padded 4 n) fits (.inr ends), valueOf_padded]
  unfold yearText
  split
  · have four : (padded 4 y.toNat).length = 4 :=
      length_padded (by decide) (show y.toNat < 10000 by omega)
    rw [year_digits (digits_padded 4 y.toNat) (digits 4 y.toNat (Nat.le_of_eq four)) (by omega)]
    congr
    omega
  · have all := digits (padded 4 y.natAbs ++ '-' :: rest).length y.natAbs (by simp)
    split
    · rw [List.cons_append, year_minus all h]
      congr
      omega
    · rw [List.cons_append, year_plus all h]
      congr
      omega

theorem dropWhile_undigited (h : Undigited rest) : rest.dropWhile Char.isDigit = rest := by
  cases rest with
  | nil => rfl
  | cons c rest => rw [List.dropWhile_cons, h c rfl, if_neg Bool.false_ne_true]

theorem fraction_padded {scale : Nat} (hw : 0 < width) (most : width ≤ 9) (h : n < Nat.pow 10 width)
    (hs : Nat.pow 10 (9 - width) = scale) (hr : Undigited rest) :
    fraction ('.' :: (padded width n ++ rest)) = .ok (n * scale, rest) := by
  have digits := digits_padded width n
  have long : (padded width n).length = width := length_padded hw h
  have read : number 9 (padded width n ++ rest) = .ok (n, rest) := by
    rw [number_digits digits (by omega) (.inr hr), valueOf_padded]
  simp only [fraction, read, bind, Except.bind, digits.takeWhile hr, dropWhile_undigited hr, long,
    Nat.min_eq_right most, hs]
  rfl

theorem fraction_fractionText (h : n < 1000000000) (hr : Undigited rest)
    (hp : rest.head? ≠ some '.') :
    fraction (fractionText n ++ rest) = .ok (n, rest) := by
  unfold fractionText
  split
  · subst n
    cases rest with
    | nil => rfl
    | cons c rest =>
      have point : c ≠ '.' := fun hc => hp (congrArg some hc)
      simp [fraction, point]
  · split
    · rw [List.cons_append, fraction_padded (by decide) (by decide) (show _ < 1000 by omega) rfl hr]
      congr
      change n / 1000000 * 1000000 = n
      omega
    · split
      · rw [List.cons_append,
          fraction_padded (by decide) (by decide) (show _ < 1000000 by omega) rfl hr]
        congr
        change n / 1000 * 1000 = n
        omega
      · rw [List.cons_append, fraction_padded (by decide) (by decide) h rfl hr]
        congr
        exact Nat.mul_one n

theorem instant_date {t : Instant} (h : Instant.inRange t.seconds = true) :
    instant t.date (t.secondOfDay / 3600) (t.secondOfDay / 60 % 60) (t.secondOfDay % 60) t.nanos 0 =
      .ok t := by
  have valid : t.date.isValid = true := Date.isValid_ofDays ((Instant.inRange_iff t).mp h)
  have noLeap : t.secondOfDay % 60 ≠ 60 := by omega
  have day : t.date.toDays = t.seconds / 86400 := Date.toDays_ofDays _
  have second : (t.secondOfDay : Int) = t.seconds % 86400 := Int.toNat_of_nonneg (by omega)
  have sum : t.date.toDays * 86400 + ((t.secondOfDay / 3600 * 3600 + t.secondOfDay / 60 % 60 * 60 +
      (t.secondOfDay % 60 - 0) : Nat) : Int) - 0 = t.seconds := by
    rw [day]
    omega
  unfold instant
  simp only [valid, noLeap, if_false, sum, h]
  simp

theorem write_eq {t : Instant} (h : t.nanos < 1000000000) :
    write t =
      yearText t.date.year ++ '-' :: (padded 2 t.date.month ++ '-' :: (padded 2 t.date.day ++ 'T' ::
        (padded 2 (t.secondOfDay / 3600) ++ ':' :: (padded 2 (t.secondOfDay / 60 % 60) ++ ':' ::
          (padded 2 (t.secondOfDay % 60) ++ (fractionText t.nanos ++ ['Z'])))))) := by
  have noLeap : ¬ 1000000000 ≤ t.nanos := Nat.not_le.mpr h
  simp [write, dateText, timeText, noLeap]

/-- An instant outside of leap seconds, whatever its year. -/
theorem read_text {t : Instant} (h : Instant.inRange t.seconds = true) (hn : t.nanos < 1000000000) :
    read (text t) = .ok t := by
  obtain ⟨⟨month, month'⟩, ⟨day, day'⟩, -⟩ := Date.ofDays_spec (t.seconds / 86400)
  have ofDay : t.secondOfDay < 86400 := by
    unfold Instant.secondOfDay
    omega
  have yearBound : t.date.year.natAbs < 0x80000000 := by
    have := (Instant.inRange_iff t).mp h
    unfold Date.leastYear Date.greatestYear at this
    omega
  have dayBound : t.date.day ≤ 31 := Nat.le_trans day' (Date.monthLength_le _ _)
  have readYear (rest : List Char) :
      year (yearText t.date.year ++ '-' :: rest) = .ok (t.date.year, '-' :: rest) :=
    year_yearText yearBound rest
  have readMonth (rest : List Char) :
      bounded 1 12 (padded 2 t.date.month ++ rest) = .ok (t.date.month, rest) :=
    bounded_padded month month' (Nat.lt_of_le_of_lt month' (by decide)) rest
  have readDay (rest : List Char) :
      bounded 1 31 (padded 2 t.date.day ++ rest) = .ok (t.date.day, rest) :=
    bounded_padded day dayBound (Nat.lt_of_le_of_lt dayBound (by decide)) rest
  have readHour (rest : List Char) :
      bounded 0 23 (padded 2 (t.secondOfDay / 3600) ++ rest) = .ok (t.secondOfDay / 3600, rest) :=
    bounded_padded (by omega) (by omega) (by omega) rest
  have readMinute (rest : List Char) :
      bounded 0 59 (padded 2 (t.secondOfDay / 60 % 60) ++ rest) =
        .ok (t.secondOfDay / 60 % 60, rest) :=
    bounded_padded (by omega) (by omega) (by omega) rest
  have readSecond (rest : List Char) :
      bounded 0 60 (padded 2 (t.secondOfDay % 60) ++ rest) = .ok (t.secondOfDay % 60, rest) :=
    bounded_padded (by omega) (by omega) (by omega) rest
  have readFraction : fraction (fractionText t.nanos ++ ['Z']) = .ok (t.nanos, ['Z']) :=
    fraction_fractionText hn (by rintro _ ⟨⟩; decide) (by decide)
  have hyphen (rest : List Char) : mark '-' ('-' :: rest) = .ok rest := mark_cons (by decide) rest
  have colon (rest : List Char) : mark ':' (':' :: rest) = .ok rest := mark_cons (by decide) rest
  have zone : offset (trimStart ['Z']) = .ok (0, []) := by decide
  rw [read, text, String.toList_ofList, write_eq hn]
  simp only [bind, Except.bind, readYear, hyphen, readMonth, readDay, separator, readHour, colon,
    readMinute, readSecond, readFraction, zone]
  exact instant_date h

end ForumDigest.Rfc3339
