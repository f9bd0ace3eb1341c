import ForumDigest.Proofs.Json.Grammar

namespace ForumDigest.Json

variable {α β : Type}

theorem skipSpace_blank {b : List Char} (hb : Blank b) (cs : List Char) :
    skipSpace (b ++ cs) = skipSpace cs :=
  List.dropWhile_append_of_pos hb

theorem skipSpace_cons {c : Char} (h : isSpace c = false) (cs : List Char) :
    skipSpace (c :: cs) = c :: cs := by
  rw [skipSpace, List.dropWhile_cons, h, if_neg Bool.false_ne_true]

theorem Stops.of_blank {b rest : List Char} (hb : Blank b) (h : Stops rest) : Stops (b ++ rest) := by
  cases b with
  | nil => exact h
  | cons c b =>
    rintro _ ⟨⟩
    exact .inl (hb c List.mem_cons_self)

theorem stops_nil : Stops [] := by
  rintro _ ⟨⟩

theorem Element.Apart.stops_elementsTail {e : Element} (h : e.Apart) (es : List Element)
    (rest : List Char) : Stops (e.after ++ elementsTail es rest) :=
  .of_blank h.after <| by cases es <;> (rintro _ ⟨⟩; simp)

theorem Element.Apart.stops_membersTail {e : Element} (h : e.Apart) (ms : List Member)
    (rest : List Char) : Stops (e.after ++ membersTail ms rest) :=
  .of_blank h.after <| by cases ms <;> (rintro _ ⟨⟩; simp)

/-- What is read is the same whatever stands behind, and what stands behind is left. -/
def Leaves (f : List Char → Except Error (α × List Char)) : Prop :=
  ∃ result : Except Error α, ∀ rest, Stops rest → f rest = result.map (·, rest)

theorem Leaves.error {f : List Char → Except Error (α × List Char)} {e : Error}
    (h : ∀ rest, Stops rest → f rest = .error e) : Leaves f :=
  ⟨.error e, h⟩

theorem Leaves.ok {f : List Char → Except Error (α × List Char)} {a : α}
    (h : ∀ rest, Stops rest → f rest = .ok (a, rest)) : Leaves f :=
  ⟨.ok a, h⟩

theorem string_plain {c : Char} (quote : c ≠ '"') (backslash : c ≠ '\\')
    (control : 0x20 ≤ c.toNat) (cs : List Char) :
    string (c :: cs) = (string cs).map fun (text, rest) => (c :: text, rest) := by
  have above : ¬ c.toNat < 32 := by omega
  rw [string.eq_7 c cs quote (by simp [backslash]) (by simp [backslash]) (by simp [backslash])
    (by simp [backslash]), if_neg above]
  cases string cs <;> rfl

theorem string_escape {c d : Char} (known : escape? c = some d) (cs : List Char) :
    string ('\\' :: c :: cs) = (string cs).map fun (text, rest) => (d :: text, rest) := by
  have apart : c ≠ 'u' := by
    rintro rfl
    cases known
  rw [string.eq_5 c cs (by simp [apart]) (by simp [apart]), known]
  cases string cs <;> rfl

theorem string_code {a b c d : Char} {u : Nat} (digits : unit? a b c d = some u) (cs : List Char) :
    string ('\\' :: 'u' :: a :: b :: c :: d :: cs) =
      if isTrailing u then .error .malformed
      else if isLeading u then
        match cs with
        | '\\' :: 'u' :: e :: f :: g :: h :: rest =>
          match unit? e f g h with
          | none => .error .malformed
          | some v =>
            if isTrailing v then do
              let (text, rest) ← string rest
              return (Char.ofNat (0x10000 + (u - 0xD800) * 1024 + (v - 0xDC00)) :: text, rest)
            else .error .malformed
        | rest => .error (pairError rest)
      else do
        let (text, rest) ← string cs
        return (Char.ofNat u :: text, rest) := by
  have reading := string.eq_3 a b c d cs
  rw [digits] at reading
  exact reading

theorem string_trailing {a b c d : Char} {u : Nat} (digits : unit? a b c d = some u)
    (h : isTrailing u = true) (cs : List Char) :
    string ('\\' :: 'u' :: a :: b :: c :: d :: cs) = .error .malformed := by
  rw [string_code digits, if_pos h]

theorem string_unit {a b c d : Char} {u : Nat} (digits : unit? a b c d = some u)
    (ht : isTrailing u = false) (hl : isLeading u = false) (cs : List Char) :
    string ('\\' :: 'u' :: a :: b :: c :: d :: cs) =
      (string cs).map fun (text, rest) => (Char.ofNat u :: text, rest) := by
  rw [string_code digits, ht, hl, if_neg Bool.false_ne_true, if_neg Bool.false_ne_true]
  cases string cs <;> rfl

theorem string_leading {a b c d : Char} {u : Nat} (digits : unit? a b c d = some u)
    (ht : isTrailing u = false) (hl : isLeading u = true) (cs : List Char)
    (h : ∀ e f g i rest, cs ≠ '\\' :: 'u' :: e :: f :: g :: i :: rest) :
    string ('\\' :: 'u' :: a :: b :: c :: d :: cs) = .error (pairError cs) := by
  rw [string_code digits]
  simp only [ht, hl, if_true, if_false, Bool.false_eq_true]

theorem string_pair {a b c d e f g i : Char} {u v : Nat} (digits : unit? a b c d = some u)
    (ht : isTrailing u = false) (hl : isLeading u = true) (second : unit? e f g i = some v)
    (cs : List Char) :
    string ('\\' :: 'u' :: a :: b :: c :: d :: '\\' :: 'u' :: e :: f :: g :: i :: cs) =
      if isTrailing v then
        (string cs).map fun (text, rest) =>
          (Char.ofNat (0x10000 + (u - 0xD800) * 1024 + (v - 0xDC00)) :: text, rest)
      else .error .malformed := by
  rw [string_code digits, ht, hl, if_neg Bool.false_ne_true, if_pos rfl]
  simp only [second]
  cases string cs <;> rfl

/-- The rest of a string up to its quote is read whatever stands behind the quote. -/
theorem string_leaves {cs : List Char} (h : IsText cs) :
    ∃ result : Except Error (List Char), ∀ rest,
      string (cs ++ '"' :: rest) = result.map (·, rest) := by
  -- A pair of surrogates takes two escapes at once, so the induction is on the length.
  induction hn : cs.length using Nat.strongRecOn generalizing cs with
  | _ n ih =>
    subst hn
    have tail {f : List Char → List Char} {ds : List Char} (hd : IsText ds)
        (shorter : ds.length < cs.length) :
        ∃ result : Except Error (List Char), ∀ rest,
          (string (ds ++ '"' :: rest)).map (fun (text, rest) => (f text, rest)) =
            result.map (·, rest) := by
      obtain ⟨result, hr⟩ := ih ds.length shorter hd rfl
      refine ⟨result.map f, fun rest => ?_⟩
      rw [hr]
      cases result <;> rfl
    cases h with
    | nil => exact ⟨.ok [], fun rest => rfl⟩
    | @plain c cs quote backslash control hc =>
      obtain ⟨result, hr⟩ := tail (f := (c :: ·)) hc (by simp)
      exact ⟨result, fun rest => (string_plain quote backslash control _).trans (hr rest)⟩
    | @escape c cs known hc =>
      obtain ⟨d, hd⟩ := Option.isSome_iff_exists.mp known
      obtain ⟨result, hr⟩ := tail (f := (d :: ·)) hc (by simp only [List.length_cons]; omega)
      exact ⟨result, fun rest => (string_escape hd _).trans (hr rest)⟩
    | @unit a b c d cs digits hc =>
      obtain ⟨u, hu⟩ := Option.isSome_iff_exists.mp digits
      cases ht : isTrailing u with
      | true => exact ⟨.error .malformed, fun rest => string_trailing hu ht _⟩
      | false =>
        cases hl : isLeading u with
        | false =>
          obtain ⟨result, hr⟩ := tail (f := (Char.ofNat u :: ·)) hc
            (by simp only [List.length_cons]; omega)
          exact ⟨result, fun rest => (string_unit hu ht hl _).trans (hr rest)⟩
        | true =>
          cases hc with
          | nil =>
            exact ⟨.error .malformed, fun rest => string_leading hu ht hl _ (by simp)⟩
          | @plain e cs quote backslash control hc =>
            refine ⟨.error .malformed, fun rest => ?_⟩
            have alone := string_leading hu ht hl (e :: (cs ++ '"' :: rest))
              (by simp [backslash])
            simpa [pairError, backslash, Except.map] using alone
          | @escape e cs known hc =>
            have apart : e ≠ 'u' := by
              rintro rfl
              cases known
            refine ⟨.error .malformed, fun rest => ?_⟩
            have alone := string_leading hu ht hl ('\\' :: e :: (cs ++ '"' :: rest))
              (by simp [apart])
            simpa [pairError, apart, Except.map] using alone
          | @unit e f g i cs digits hc =>
            obtain ⟨v, hv⟩ := Option.isSome_iff_exists.mp digits
            cases hvt : isTrailing v with
            | false =>
              refine ⟨.error .malformed, fun rest => ?_⟩
              exact (string_pair hu ht hl hv _).trans (by rw [hvt]; rfl)
            | true =>
              obtain ⟨result, hr⟩ := tail hc (by simp only [List.length_cons]; omega)
              refine ⟨result, fun rest => (string_pair hu ht hl hv _).trans ?_⟩
              rw [hvt, if_pos rfl]
              exact hr rest

theorem Leaves.congr {f g : List Char → Except Error (α × List Char)} (hg : Leaves g)
    (h : ∀ rest, Stops rest → f rest = g rest) : Leaves f := by
  obtain ⟨result, hr⟩ := hg
  exact ⟨result, fun rest hs => (h rest hs).trans (hr rest hs)⟩

def Undigited (cs : List Char) : Prop := ∀ c ∈ cs.head?, c.isDigit = false

theorem Stops.undigited {rest : List Char} (h : Stops rest) : Undigited rest := by
  intro c hc
  obtain hs | rfl | rfl | rfl := h c hc
  · simp only [isSpace, Bool.or_eq_true, beq_iff_eq] at hs
    obtain ((rfl | rfl) | rfl) | rfl := hs <;> decide
  all_goals decide

theorem Stops.not_startsExponent {rest : List Char} (h : Stops rest) :
    startsExponent rest = false := by
  unfold startsExponent
  split
  · simp [Stops, isSpace] at h
  · simp [Stops, isSpace] at h
  · rfl

theorem Stops.not_point {rest : List Char} (h : Stops rest) (cs : List Char) : rest ≠ '.' :: cs := by
  rintro rfl
  simp [Stops, isSpace] at h

theorem Digits.takeWhile {ds tail : List Char} (h : Digits ds) (ht : Undigited tail) :
    (ds ++ tail).takeWhile Char.isDigit = ds := by
  rw [List.takeWhile_append_of_pos h.digits]
  cases tail with
  | nil => exact List.append_nil ds
  | cons c tail => rw [List.takeWhile_cons, ht c rfl, if_neg Bool.false_ne_true, List.append_nil]

theorem Digits.dropWhile {ds tail : List Char} (h : Digits ds) (ht : Undigited tail) :
    (ds ++ tail).dropWhile Char.isDigit = tail := by
  rw [List.dropWhile_append_of_pos h.digits]
  cases tail with
  | nil => rfl
  | cons c tail => rw [List.dropWhile_cons, ht c rfl, if_neg Bool.false_ne_true]

theorem realNumber_leaves (negative : Bool) (significand : Nat) (exponent : Int) :
    Leaves (realNumber negative significand exponent) := by
  unfold realNumber
  cases real? negative significand exponent with
  | none => exact .error fun _ _ => rfl
  | some x => exact .ok fun _ _ => rfl

theorem exponentPart_digits (negative : Bool) (significand : Nat) (start : Int)
    {sign ds rest : List Char} {down : Bool}
    (hs : (sign, down) ∈ [([], false), (['+'], false), (['-'], true)]) (hd : Digits ds)
    (hr : Undigited rest) :
    exponentPart negative significand start (sign ++ (ds ++ rest)) =
      if (accumulate 2147483648 0 ds).2.isEmpty then
        realNumber negative significand (clamp (if down
          then start - (accumulate 2147483648 0 ds).1
          else start + (accumulate 2147483648 0 ds).1)) rest
      else if significand ≠ 0 && !down then .error .malformed
      else realNumber negative 0 0 rest := by
  have front := hd.takeWhile hr
  have back := hd.dropWhile hr
  obtain ⟨d, ds, rfl⟩ := List.exists_cons_of_ne_nil hd.nonempty
  have plus : d ≠ '+' := by
    rintro rfl
    exact absurd (hd.digits _ List.mem_cons_self) (by decide)
  have minus : d ≠ '-' := by
    rintro rfl
    exact absurd (hd.digits _ List.mem_cons_self) (by decide)
  rw [List.cons_append] at front back
  simp only [List.mem_cons, Prod.mk.injEq, List.not_mem_nil, or_false] at hs
  unfold exponentPart
  obtain ⟨rfl, rfl⟩ | ⟨rfl, rfl⟩ | ⟨rfl, rfl⟩ := hs
  · simp [plus, minus, front, back]
  · simp [front, back]
  · simp [front, back]

theorem exponentPart_leaves (negative : Bool) (significand : Nat) (start : Int)
    {sign ds : List Char} (hs : sign ∈ [[], ['+'], ['-']]) (hd : Digits ds) :
    Leaves fun rest => exponentPart negative significand start (sign ++ (ds ++ rest)) := by
  obtain ⟨down, signed⟩ : ∃ down,
      (sign, down) ∈ [([], false), (['+'], false), (['-'], true)] := by
    simpa [or_assoc, exists_or] using hs
  refine Leaves.congr ?_ fun rest hr =>
    exponentPart_digits negative significand start signed hd hr.undigited
  split
  · exact realNumber_leaves _ _ _
  · split
    · exact .error fun _ _ => rfl
    · exact realNumber_leaves _ _ _

theorem decimalPart_digits (negative : Bool) (significand : Nat) (start : Int)
    {ds tail : List Char} (hd : Digits ds) (ht : Undigited tail) :
    decimalPart negative significand start (ds ++ tail) =
      if startsExponent tail then
        exponentPart negative (accumulate wordLimit significand ds).1
          (start - ((ds.length - (accumulate wordLimit significand ds).2.length : Nat) : Int))
          (tail.drop 1)
      else
        realNumber negative (accumulate wordLimit significand ds).1
          (start - ((ds.length - (accumulate wordLimit significand ds).2.length : Nat) : Int))
          tail := by
  have front := hd.takeWhile ht
  have back := hd.dropWhile ht
  obtain ⟨d, ds, rfl⟩ := List.exists_cons_of_ne_nil hd.nonempty
  rw [List.cons_append] at front back
  unfold decimalPart
  simp [front, back]

theorem IsExponent.undigited {exponent rest : List Char} (h : IsExponent exponent)
    (hr : Stops rest) : Undigited (exponent ++ rest) := by
  cases h with
  | none => exact hr.undigited
  | digits hl hs hd =>
    rintro _ ⟨⟩
    obtain rfl | rfl := hl <;> decide

theorem decimalPart_leaves (negative : Bool) (significand : Nat) (start : Int)
    {ds exponent : List Char} (hd : Digits ds) (he : IsExponent exponent) :
    Leaves fun rest => decimalPart negative significand start (ds ++ (exponent ++ rest)) := by
  refine Leaves.congr ?_ fun rest hr =>
    decimalPart_digits negative significand start hd (he.undigited hr)
  generalize start - ((ds.length - (accumulate wordLimit significand ds).2.length : Nat) : Int) = e
  generalize (accumulate wordLimit significand ds).1 = s
  cases he with
  | none =>
    refine (realNumber_leaves negative s e).congr fun rest hr => ?_
    rw [List.nil_append, hr.not_startsExponent, if_neg Bool.false_ne_true]
  | @digits letter sign ds hl hs hd =>
    refine (exponentPart_leaves negative s e hs hd).congr fun rest hr => ?_
    have starts : startsExponent (letter :: (sign ++ ds) ++ rest) = true := by
      obtain rfl | rfl := hl <;> rfl
    rw [starts, if_pos rfl, List.cons_append, List.drop_one, List.tail_cons, List.append_assoc]

theorem unsigned_digits (negative : Bool) {whole tail : List Char} (hw : IsWhole whole)
    (ht : Undigited tail) :
    unsigned negative (whole ++ tail) =
      if tail.head? = some '.' then
        decimalPart negative (accumulate wordLimit 0 whole).1
          (accumulate wordLimit 0 whole).2.length (tail.drop 1)
      else if startsExponent tail then
        exponentPart negative (accumulate wordLimit 0 whole).1
          (accumulate wordLimit 0 whole).2.length (tail.drop 1)
      else if !(accumulate wordLimit 0 whole).2.isEmpty then
        realNumber negative (accumulate wordLimit 0 whole).1
          (accumulate wordLimit 0 whole).2.length tail
      else if !negative then .ok (.natural (accumulate wordLimit 0 whole).1, tail)
      else if 0 < (accumulate wordLimit 0 whole).1 ∧
          (accumulate wordLimit 0 whole).1 ≤ 0x8000000000000000 then
        .ok (.negative (accumulate wordLimit 0 whole).1, tail)
      else realNumber true (accumulate wordLimit 0 whole).1 0 tail := by
  have front := hw.takeWhile ht
  have back := hw.dropWhile ht
  obtain ⟨d, ds, rfl⟩ := List.exists_cons_of_ne_nil hw.nonempty
  rw [List.cons_append] at front back
  unfold unsigned
  rw [List.cons_append, front]
  split
  · rename_i empty
    cases empty
  · rename_i empty _
    cases empty
  · rename_i padded _
    obtain ⟨rfl, rfl⟩ := List.cons.inj padded
    cases hw.unpadded _ rfl
  · dsimp only
    rw [back]
    split
    · rfl
    · rename_i unpointed
      have : tail.head? ≠ some '.' := by
        cases tail with
        | nil => simp
        | cons c tail =>
          rintro ⟨⟩
          exact unpointed tail rfl
      rw [if_neg this]

theorem unsigned_leaves (negative : Bool) {whole fraction exponent : List Char}
    (hw : IsWhole whole) (hf : IsFraction fraction) (he : IsExponent exponent) :
    Leaves fun rest => unsigned negative (whole ++ (fraction ++ (exponent ++ rest))) := by
  have tail (rest : List Char) (hr : Stops rest) : Undigited (fraction ++ (exponent ++ rest)) := by
    cases hf with
    | none => exact he.undigited hr
    | digits hd =>
      rintro _ ⟨⟩
      decide
  refine Leaves.congr ?_ fun rest hr => unsigned_digits negative hw (tail rest hr)
  generalize (accumulate wordLimit 0 whole).1 = s
  generalize (accumulate wordLimit 0 whole).2 = left
  cases hf with
  | digits hd =>
    exact (decimalPart_leaves negative s left.length hd he).congr fun rest hr => if_pos rfl
  | none =>
    cases he with
    | @digits letter sign ds hl hs hd =>
      refine (exponentPart_leaves negative s left.length hs hd).congr fun rest hr => ?_
      obtain rfl | rfl := hl <;> simp [startsExponent]
    | none =>
      have integer : Leaves fun rest =>
          if !left.isEmpty then realNumber negative s left.length rest
          else if !negative then .ok (.natural s, rest)
          else if 0 < s ∧ s ≤ 0x8000000000000000 then .ok (.negative s, rest)
          else realNumber true s 0 rest := by
        split
        · exact realNumber_leaves _ _ _
        · split
          · exact .ok fun _ _ => rfl
          · split
            · exact .ok fun _ _ => rfl
            · exact realNumber_leaves _ _ _
      refine integer.congr fun rest hr => ?_
      have unpointed : rest.head? ≠ some '.' := fun hp => by
        obtain ⟨tail, rfl⟩ := List.head?_eq_some_iff.mp hp
        exact hr.not_point tail rfl
      simp only [List.nil_append, unpointed, hr.not_startsExponent, if_false, Bool.false_eq_true]

theorem number_leaves {cs : List Char} (h : IsNumeral cs) : Leaves fun rest => number (cs ++ rest) := by
  obtain @⟨sign, whole, fraction, exponent, hs, hw, hf, he⟩ := h
  simp only [List.mem_cons, List.not_mem_nil, or_false] at hs
  obtain rfl | rfl := hs
  · refine (unsigned_leaves false hw hf he).congr fun rest hr => ?_
    obtain ⟨d, ds, rfl⟩ := List.exists_cons_of_ne_nil hw.nonempty
    have minus : d ≠ '-' := by
      rintro rfl
      exact absurd (hw.digits _ List.mem_cons_self) (by decide)
    simp [number, minus]
  · refine (unsigned_leaves true hw hf he).congr fun rest hr => ?_
    simp [number]

end ForumDigest.Json
