import ForumDigest.Proofs.Json.Written

namespace ForumDigest.Json

variable {negative : Bool} {significand : Nat} {start : Int} {n : Number} {cs rest : List Char}

theorem rest_of_realNumber (h : realNumber negative significand start cs = .ok (n, rest)) :
    cs = rest := by
  unfold realNumber at h
  split at h
  · exact (Prod.mk.inj (Except.ok.inj h)).2
  · cases h

theorem exists_digits (h : cs.takeWhile Char.isDigit ≠ []) :
    ∃ ds tail, cs = ds ++ tail ∧ Digits ds ∧ Undigited tail := by
  refine ⟨_, _, List.takeWhile_append_dropWhile.symm, ⟨h, ?_⟩, ?_⟩
  · exact fun c hc => List.all_eq_true.mp List.all_takeWhile c hc
  · intro c hc
    have first := List.head?_dropWhile_not Char.isDigit cs
    rw [hc] at first
    simpa using first

theorem signed_of_exponentPart (h : exponentPart negative significand start cs = .ok (n, rest)) :
    ∃ sign down tail, (sign, down) ∈ [([], false), (['+'], false), (['-'], true)] ∧
      cs = sign ++ tail ∧ tail.takeWhile Char.isDigit ≠ [] := by
  unfold exponentPart at h
  split at h
  rename_i down tail signed
  have some : tail.takeWhile Char.isDigit ≠ [] := fun none => by
    rw [none] at h
    cases tail <;> cases h
  split at signed <;> obtain ⟨rfl, rfl⟩ := Prod.mk.inj signed
  · exact ⟨['+'], false, _, by decide, rfl, some⟩
  · exact ⟨['-'], true, _, by decide, rfl, some⟩
  · exact ⟨[], false, _, by decide, rfl, some⟩

theorem digits_of_exponentPart (h : exponentPart negative significand start cs = .ok (n, rest)) :
    ∃ sign ds, sign ∈ [[], ['+'], ['-']] ∧ Digits ds ∧ cs = sign ++ (ds ++ rest) := by
  obtain ⟨sign, down, tail, hs, rfl, some⟩ := signed_of_exponentPart h
  obtain ⟨ds, tail, rfl, hd, ht⟩ := exists_digits some
  have plain : sign ∈ [[], ['+'], ['-']] := List.mem_map_of_mem (f := Prod.fst) hs
  rw [exponentPart_digits negative significand start hs hd ht] at h
  refine ⟨sign, ds, plain, hd, ?_⟩
  split at h
  · rw [rest_of_realNumber h]
  · split at h
    · cases h
    · rw [rest_of_realNumber h]

theorem startsExponent_cons (h : startsExponent cs = true) :
    ∃ letter tail, (letter = 'e' ∨ letter = 'E') ∧ cs = letter :: tail := by
  unfold startsExponent at h
  split at h
  · exact ⟨'e', _, .inl rfl, rfl⟩
  · exact ⟨'E', _, .inr rfl, rfl⟩
  · cases h

theorem isExponent_of_read (hs : startsExponent cs = true)
    (h : exponentPart negative significand start (cs.drop 1) = .ok (n, rest)) :
    ∃ exponent, IsExponent exponent ∧ cs = exponent ++ rest := by
  obtain ⟨letter, tail, hl, rfl⟩ := startsExponent_cons hs
  obtain ⟨sign, ds, signed, hd, parts⟩ := digits_of_exponentPart h
  refine ⟨_, .digits hl signed hd, ?_⟩
  rw [List.cons_append, List.append_assoc, ← parts]
  rfl

theorem digits_of_decimalPart (h : decimalPart negative significand start cs = .ok (n, rest)) :
    ∃ ds exponent, Digits ds ∧ IsExponent exponent ∧ cs = ds ++ (exponent ++ rest) := by
  have some : cs.takeWhile Char.isDigit ≠ [] := fun none => by
    unfold decimalPart at h
    rw [none] at h
    cases cs <;> cases h
  obtain ⟨ds, tail, rfl, hd, ht⟩ := exists_digits some
  rw [decimalPart_digits negative significand start hd ht] at h
  split at h
  · obtain ⟨exponent, he, rfl⟩ := isExponent_of_read ‹_› h
    exact ⟨ds, exponent, hd, he, rfl⟩
  · exact ⟨ds, [], hd, .none, by rw [rest_of_realNumber h, List.nil_append]⟩

theorem isWhole_of_unsigned (h : unsigned negative cs = .ok (n, rest)) :
    ∃ whole tail, IsWhole whole ∧ Undigited tail ∧ cs = whole ++ tail := by
  have some : cs.takeWhile Char.isDigit ≠ [] := fun none => by
    unfold unsigned at h
    rw [none] at h
    cases cs <;> cases h
  obtain ⟨ds, tail, rfl, hd, ht⟩ := exists_digits some
  refine ⟨ds, tail, { toDigits := hd, unpadded := ?_ }, ht, rfl⟩
  rintro es rfl
  -- Behind a zero no other digit is read.
  cases es with
  | nil => rfl
  | cons e es =>
    unfold unsigned at h
    rw [hd.takeWhile ht] at h
    cases h

theorem isNumeral_of_unsigned (h : unsigned negative cs = .ok (n, rest)) :
    ∃ whole fraction exponent, IsWhole whole ∧ IsFraction fraction ∧ IsExponent exponent ∧
      cs = whole ++ (fraction ++ (exponent ++ rest)) := by
  obtain ⟨whole, tail, hw, ht, rfl⟩ := isWhole_of_unsigned h
  rw [unsigned_digits negative hw ht] at h
  have plain (same : tail = rest) : ∃ fraction exponent, IsFraction fraction ∧
      IsExponent exponent ∧ tail = fraction ++ (exponent ++ rest) :=
    ⟨[], [], .none, .none, same⟩
  suffices ∃ fraction exponent, IsFraction fraction ∧ IsExponent exponent ∧
      tail = fraction ++ (exponent ++ rest) by
    obtain ⟨fraction, exponent, hf, he, rfl⟩ := this
    exact ⟨whole, fraction, exponent, hw, hf, he, rfl⟩
  split at h
  · obtain ⟨tail, rfl⟩ := List.head?_eq_some_iff.mp ‹tail.head? = some '.'›
    obtain ⟨ds, exponent, hd, he, parts⟩ := digits_of_decimalPart h
    refine ⟨'.' :: ds, exponent, .digits hd, he, ?_⟩
    rw [List.cons_append, ← parts]
    rfl
  · split at h
    · obtain ⟨exponent, he, rfl⟩ := isExponent_of_read ‹_› h
      exact ⟨[], exponent, .none, he, rfl⟩
    · refine plain ?_
      split at h
      · exact rest_of_realNumber h
      · split at h
        · exact (Prod.mk.inj (Except.ok.inj h)).2
        · split at h
          · exact (Prod.mk.inj (Except.ok.inj h)).2
          · exact rest_of_realNumber h

theorem isNumeral_of_number (h : number cs = .ok (n, rest)) :
    ∃ numeral, IsNumeral numeral ∧ cs = numeral ++ rest := by
  unfold number at h
  split at h
  · obtain ⟨whole, fraction, exponent, hw, hf, he, rfl⟩ := isNumeral_of_unsigned h
    have numeral : IsNumeral (['-'] ++ (whole ++ (fraction ++ exponent))) :=
      .mk (by decide) hw hf he
    exact ⟨_, numeral, by simp⟩
  · obtain ⟨whole, fraction, exponent, hw, hf, he, rfl⟩ := isNumeral_of_unsigned h
    have numeral : IsNumeral ([] ++ (whole ++ (fraction ++ exponent))) :=
      .mk (by decide) hw hf he
    exact ⟨_, numeral, by simp⟩

theorem isDigit_of_mem_shortest (x : Binary64) {c : Char} (h : c ∈ x.shortest.digits) :
    c.isDigit = true := by
  have mem : c ∈ ((Nat.toDigits 10 _).reverse.dropWhile (· == '0')).reverse := h
  rw [List.mem_reverse] at mem
  have inner := (List.dropWhile_sublist _).mem mem
  rw [List.mem_reverse] at inner
  exact Nat.isDigit_of_mem_toDigits (by decide) (by decide) inner

def IsNumeric (c : Char) : Prop := c.isDigit = true ∨ c ∈ ['-', '+', '.', 'e']

theorem IsNumeric.not_isSpace {c : Char} (h : IsNumeric c) : isSpace c = false := by
  obtain digit | other := h
  · exact StartsValue.not_isSpace (.inr (by simp [startsNumber, digit]))
  · simp only [List.mem_cons, List.not_mem_nil, or_false] at other
    obtain rfl | rfl | rfl | rfl := other <;> decide

theorem isNumeric_zero : IsNumeric '0' := .inl (by decide)

theorem isNumeric_point : IsNumeric '.' := .inr (by decide)

theorem isNumeric_replicate (n : Nat) : ∀ c ∈ List.replicate n '0', IsNumeric c := by
  intro c hc
  rw [List.eq_of_mem_replicate hc]
  exact isNumeric_zero

theorem isNumeric_positional {d : Binary64.Decimal} (h : ∀ c ∈ d.digits, IsNumeric c) :
    ∀ c ∈ Binary64.positional d, IsNumeric c := by
  unfold Binary64.positional
  split
  · simp only [List.forall_mem_cons, List.forall_mem_append]
    exact ⟨isNumeric_zero, isNumeric_point, isNumeric_replicate _, h⟩
  · simp only [List.forall_mem_cons, List.forall_mem_append]
    refine ⟨⟨fun c hc => h c (List.mem_of_mem_take hc), isNumeric_replicate _⟩, isNumeric_point, ?_⟩
    split
    · exact List.forall_mem_singleton.mpr isNumeric_zero
    · exact fun c hc => h c (List.mem_of_mem_drop hc)

theorem isNumeric_scientific {d : Binary64.Decimal} (h : ∀ c ∈ d.digits, IsNumeric c) :
    ∀ c ∈ Binary64.scientific d, IsNumeric c := by
  have exponent (n : Nat) : ∀ c ∈ Nat.toDigits 10 n, IsNumeric c := fun c hc =>
    .inl (Nat.isDigit_of_mem_toDigits (by decide) (by decide) hc)
  unfold Binary64.scientific
  simp only [List.forall_mem_append, List.forall_mem_cons]
  refine ⟨?_, .inr (by decide), ?_, exponent _⟩
  · split
    · rename_i digits
      rw [digits, List.forall_mem_cons, List.forall_mem_cons] at h
      simp only [List.forall_mem_cons]
      exact ⟨h.1, isNumeric_point, h.2⟩
    · exact h
  · split
    · exact .inr (by decide)
    · exact .inr (by decide)

theorem isNumeric_finiteText (style : Binary64.Style) (x : Binary64) :
    ∀ c ∈ x.finiteText style, IsNumeric c := by
  have digits : ∀ c ∈ x.shortest.digits, IsNumeric c := fun c hc =>
    .inl (isDigit_of_mem_shortest x hc)
  have sign : ∀ c ∈ if x.isNegative then ['-'] else [], IsNumeric c := by
    split
    · exact List.forall_mem_singleton.mpr (.inr (by decide))
    · exact List.forall_mem_nil _
  unfold Binary64.finiteText
  dsimp only
  generalize (if x.isNegative then ['-'] else []) = front at sign ⊢
  split
  · rw [List.forall_mem_append]
    refine ⟨sign, ?_⟩
    simp only [List.forall_mem_cons]
    exact ⟨isNumeric_zero, isNumeric_point, isNumeric_zero, List.forall_mem_nil _⟩
  · rw [List.forall_mem_append]
    refine ⟨sign, ?_⟩
    split
    · exact isNumeric_positional digits
    · exact isNumeric_scientific digits

theorem skipSpace_of_numeric (h : ∀ c ∈ cs, IsNumeric c) : skipSpace cs = cs := by
  cases cs with
  | nil => rfl
  | cons c cs => exact skipSpace_cons (h c List.mem_cons_self).not_isSpace cs

theorem number_of_readNumber {kind : String} (numeric : ∀ c ∈ cs, IsNumeric c)
    (h : readNumber kind cs = .ok (n, rest)) : number cs = .ok (n, rest) := by
  unfold readNumber at h
  rw [skipSpace_of_numeric numeric] at h
  split at h
  · split at h
    · exact h
    · cases h
  · cases h

theorem number_of_readReal {x : Binary64} (numeric : ∀ c ∈ cs, IsNumeric c)
    (h : readReal cs = .ok (x, rest)) : ∃ n, number cs = .ok (n, rest) := by
  unfold readReal Reader.map at h
  split at h
  · obtain ⟨-, rfl⟩ := Prod.mk.inj (Except.ok.inj h)
    exact ⟨_, number_of_readNumber numeric ‹_›⟩
  · cases h

theorem restores_of_decode {x : Binary64} (numeric : ∀ c ∈ cs, IsNumeric c)
    (h : decode readReal (String.ofList cs) = .ok x) : readReal.Restores cs x := by
  unfold decode at h
  rw [String.toList_ofList] at h
  rcases hr : readReal cs with e | ⟨y, rest⟩
  · rw [hr] at h
    cases h
  · rw [hr] at h
    dsimp only at h
    split at h
    · rename_i nothing
      obtain rfl := Except.ok.inj h
      obtain ⟨n, hn⟩ := number_of_readReal numeric hr
      obtain ⟨numeral, hv, rfl⟩ := isNumeral_of_number hn
      rw [skipSpace_of_numeric fun c hc => numeric c (List.mem_append_right numeral hc),
        List.isEmpty_iff] at nothing
      subst nothing
      refine ⟨?_, by rw [Reader.value, hr]; rfl⟩
      rw [List.append_nil]
      exact .number hv
    · cases h

end ForumDigest.Json

namespace ForumDigest.Binary64

open Json

/-- The text that is written for the double is read as the double. -/
def ReadsBack (x : Binary64) : Prop := decode readReal (String.ofList (writeReal x)) = .ok x

instance (x : Binary64) : Decidable x.ReadsBack := inferInstanceAs (Decidable (_ = _))

variable {x : Binary64}

theorem ReadsBack.isFinite (h : x.ReadsBack) : x.isFinite = true := by
  by_contra infinite
  rw [ReadsBack, writeReal, if_neg infinite] at h
  cases h

theorem ReadsBack.restores (h : x.ReadsBack) : readReal.Restores (writeReal x) x := by
  have written : writeReal x = x.finiteText jsonStyle := if_pos h.isFinite
  rw [ReadsBack, written] at h
  rw [written]
  exact restores_of_decode (isNumeric_finiteText jsonStyle x) h

example : (⟨1⟩ : Binary64).ReadsBack := by decide +kernel

end ForumDigest.Binary64
