import ForumDigest.Url.Percent
import Mathlib.Data.Char
import Mathlib.Tactic.Common

namespace ForumDigest.Url.Percent

open Text

variable {reserved : Char → Bool} {c d : Char} {cs : List Char}

def isHexDigit (c : Char) : Bool :=
  (0x30 ≤ c.toNat && c.toNat ≤ 0x39) || (0x41 ≤ c.toNat && c.toNat ≤ 0x46) ||
    (0x61 ≤ c.toNat && c.toNat ≤ 0x66)

def startsDigits : List Char → Bool
  | h :: l :: _ => isHexDigit h && isHexDigit l
  | _ => false

def hasEscape : List Char → Bool
  | [] => false
  | c :: cs => (c == '%' && startsDigits cs) || hasEscape cs

/-- What an encoded text may consist of is not encoded again. -/
structure Sparing (reserved : Char → Bool) : Prop where
  percent : reserved '%' = false
  digit : ∀ c, isHexDigit c = true → reserved c = false

theorem isHexDigit_hexDigit {n : Nat} (h : n < 16) : isHexDigit (hexDigit n) = true := by
  have all : ∀ m < 16, isHexDigit (hexDigit m) = true := by decide
  exact all n h

theorem hasEscape_of_not_mem (h : '%' ∉ cs) : hasEscape cs = false := by
  induction cs with
  | nil => rfl
  | cons c cs ih =>
    rw [List.mem_cons, not_or] at h
    simp [hasEscape, ih h.2, Ne.symm h.1]

theorem encode_cons (reserved : Char → Bool) (c : Char) (cs : List Char) :
    encode reserved (c :: cs) =
      (if reserved c then encodeChar c else [c]) ++ encode reserved cs := rfl

theorem encode_append (reserved : Char → Bool) (xs ys : List Char) :
    encode reserved (xs ++ ys) = encode reserved xs ++ encode reserved ys :=
  List.flatMap_append

theorem encode_append_cons (h : reserved d = false) (xs ys : List Char) :
    encode reserved (xs ++ d :: ys) = encode reserved xs ++ d :: encode reserved ys := by
  rw [encode_append, encode_cons, h, if_neg Bool.false_ne_true, List.singleton_append]

theorem encode_of_unreserved (h : ∀ c ∈ cs, reserved c = false) : encode reserved cs = cs := by
  induction cs with
  | nil => rfl
  | cons c cs ih =>
    rw [encode_cons, h c List.mem_cons_self, ih fun d hd => h d (List.mem_cons_of_mem _ hd)]
    rfl

theorem mem_encodeChar (h : d ∈ encodeChar c) : d = '%' ∨ isHexDigit d = true := by
  obtain ⟨b, -, hb⟩ := List.mem_flatMap.mp h
  have := b.toNat_lt
  simp only [encodeByte, List.mem_cons, List.not_mem_nil, or_false] at hb
  obtain rfl | rfl | rfl := hb
  · exact .inl rfl
  · exact .inr (isHexDigit_hexDigit (by omega))
  · exact .inr (isHexDigit_hexDigit (by omega))

theorem mem_encode (h : d ∈ encode reserved cs) :
    (d ∈ cs ∧ reserved d = false) ∨ d = '%' ∨ isHexDigit d = true := by
  obtain ⟨c, hc, hd⟩ := List.mem_flatMap.mp h
  split at hd
  · exact .inr (mem_encodeChar hd)
  · rename_i hr
    rw [List.mem_singleton.mp hd]
    exact .inl ⟨hc, Bool.eq_false_iff.mpr hr⟩

theorem not_mem_encode (h : d ∉ cs) (percent : d ≠ '%') (nondigit : isHexDigit d = false)
    (reserved : Char → Bool) : d ∉ encode reserved cs := by
  intro hd
  obtain ⟨hd, -⟩ | rfl | digit := mem_encode hd
  · exact h hd
  · exact percent rfl
  · exact Bool.false_ne_true (nondigit.symm.trans digit)

theorem unreserved_of_mem_encode (hs : Sparing reserved) (h : d ∈ encode reserved cs) :
    reserved d = false := by
  obtain ⟨-, hd⟩ | rfl | hd := mem_encode h
  · exact hd
  · exact hs.percent
  · exact hs.digit d hd

theorem utf8_cons (c : Char) (cs : List Char) :
    Utf8.encode (c :: cs) = String.utf8EncodeChar c ++ Utf8.encode cs := rfl

theorem utf8_append (xs ys : List Char) :
    Utf8.encode (xs ++ ys) = Utf8.encode xs ++ Utf8.encode ys :=
  List.flatMap_append

theorem utf8EncodeChar_of_lt (h : c.toNat < 128) :
    String.utf8EncodeChar c = [UInt8.ofNat c.toNat] := by
  have le : c.val.toNat ≤ 127 := Nat.le_of_lt_succ h
  simp only [String.utf8EncodeChar, le, if_true]
  rfl

theorem le_toNat_of_mem_utf8EncodeChar (h : 128 ≤ c.toNat) {b : UInt8}
    (hb : b ∈ String.utf8EncodeChar c) : 128 ≤ b.toNat := by
  have gt : ¬ c.val.toNat ≤ 127 := by
    change 128 ≤ c.val.toNat at h
    omega
  simp only [String.utf8EncodeChar, gt, if_false] at hb
  split at hb
  · simp only [List.mem_cons, List.not_mem_nil, or_false] at hb
    obtain rfl | rfl := hb <;> simp <;> omega
  · split at hb
    · simp only [List.mem_cons, List.not_mem_nil, or_false] at hb
      obtain rfl | rfl | rfl := hb <;> simp <;> omega
    · simp only [List.mem_cons, List.not_mem_nil, or_false] at hb
      obtain rfl | rfl | rfl | rfl := hb <;> simp <;> omega

theorem utf8EncodeChar_percent : String.utf8EncodeChar '%' = [0x25] := by decide

theorem ascii_not_mem_utf8EncodeChar (hd : d.toNat < 128) (h : c ≠ d) :
    UInt8.ofNat d.toNat ∉ String.utf8EncodeChar c := by
  have byte : (UInt8.ofNat d.toNat).toNat = d.toNat := by
    rw [UInt8.toNat_ofNat']
    omega
  intro hb
  by_cases hc : c.toNat < 128
  · rw [utf8EncodeChar_of_lt hc, List.mem_singleton] at hb
    have value := congrArg UInt8.toNat hb
    rw [byte, UInt8.toNat_ofNat'] at value
    exact h (Char.toNat_inj.mp (by omega))
  · have := le_toNat_of_mem_utf8EncodeChar (Nat.le_of_not_lt hc) hb
    omega

theorem percent_not_mem_utf8EncodeChar (h : c ≠ '%') : 0x25 ∉ String.utf8EncodeChar c :=
  ascii_not_mem_utf8EncodeChar (d := '%') (by decide) h

theorem isSome_hexValue? (b : UInt8) :
    (hexValue? b).isSome = true ↔ (0x30 ≤ b.toNat ∧ b.toNat ≤ 0x39) ∨
      (0x41 ≤ b.toNat ∧ b.toNat ≤ 0x46) ∨ (0x61 ≤ b.toNat ∧ b.toNat ≤ 0x66) := by
  unfold hexValue?
  dsimp only
  split
  · simp [*]
  · split
    · simp [*]
    · split <;> simp <;> omega

theorem exists_utf8EncodeChar_eq_cons (c : Char) : ∃ b bs, String.utf8EncodeChar c = b :: bs :=
  List.exists_cons_of_length_pos (by rw [String.length_utf8EncodeChar]; exact c.utf8Size_pos)

theorem encode_ne_nil (h : cs ≠ []) (reserved : Char → Bool) : encode reserved cs ≠ [] := by
  obtain ⟨c, cs, rfl⟩ := List.exists_cons_of_ne_nil h
  obtain ⟨b, bs, hb⟩ := exists_utf8EncodeChar_eq_cons c
  rw [encode_cons, encodeChar, hb]
  split <;> simp [encodeByte]

def escaped? : List UInt8 → Option (UInt8 × List UInt8)
  | h :: l :: bs =>
    match hexValue? h, hexValue? l with
    | some h', some l' => some (UInt8.ofNat (h' * 16 + l'), bs)
    | _, _ => none
  | _ => none

theorem decode_percent (bs : List UInt8) :
    decode (0x25 :: bs) = match escaped? bs with
      | some (b, rest) => b :: decode rest
      | none => 0x25 :: decode bs := by
  rcases bs with _ | ⟨h, _ | ⟨l, bs⟩⟩
  · rfl
  · simp [decode, escaped?]
  · rw [decode, escaped?]
    cases hexValue? h <;> cases hexValue? l <;> rfl

theorem decode_cons_of_ne {b : UInt8} (h : b ≠ 0x25) (bs : List UInt8) :
    decode (b :: bs) = b :: decode bs :=
  decode.eq_2 b bs fun _ _ _ hb => absurd hb h

theorem decode_append_of_not_mem {xs : List UInt8} (h : 0x25 ∉ xs) (bs : List UInt8) :
    decode (xs ++ bs) = xs ++ decode bs := by
  induction xs with
  | nil => rfl
  | cons b xs ih =>
    rw [List.mem_cons, not_or] at h
    rw [List.cons_append, decode_cons_of_ne (Ne.symm h.1), ih h.2, List.cons_append]

theorem length_lt_of_escaped? {bs rest : List UInt8} {b : UInt8} (h : escaped? bs = some (b, rest)) :
    rest.length < bs.length := by
  rcases bs with _ | ⟨h, _ | ⟨l, bs⟩⟩
  · cases h
  · cases h
  · rw [escaped?] at h
    split at h
    · obtain ⟨-, rfl⟩ := Prod.mk.inj (Option.some.inj h)
      simp only [List.length_cons]
      omega
    · cases h

theorem length_decode_le (bs : List UInt8) : (decode bs).length ≤ bs.length := by
  -- An escape takes up three bytes, so the induction is on the length.
  induction hn : bs.length using Nat.strong_induction_on generalizing bs with
  | _ n ih =>
    subst hn
    cases bs with
    | nil => exact Nat.le_refl _
    | cons b bs =>
      have tail := ih bs.length (Nat.lt_succ_self _) bs rfl
      by_cases hb : b = 0x25
      · subst hb
        rw [decode_percent]
        rcases he : escaped? bs with _ | ⟨b, rest⟩
        · simpa using tail
        · have shorter := length_lt_of_escaped? he
          have := ih rest.length (Nat.lt_succ_of_lt shorter) rest rfl
          simp only [List.length_cons]
          omega
      · rw [decode_cons_of_ne hb]
        simpa using tail

theorem escaped?_of_first {b : UInt8} (h : hexValue? b = none) (bs : List UInt8) :
    escaped? (b :: bs) = none := by
  cases bs with
  | nil => rfl
  | cons l bs => simp only [escaped?, h]

theorem escaped?_of_second {l : UInt8} (h : hexValue? l = none) (b : UInt8) (bs : List UInt8) :
    escaped? (b :: l :: bs) = none := by
  simp only [escaped?, h]
  cases hexValue? b <;> rfl

theorem escaped?_append {b : UInt8} (h : hexValue? b = none) (xs bs : List UInt8) :
    escaped? (xs ++ b :: bs) = (escaped? xs).map fun p => (p.1, p.2 ++ b :: bs) := by
  rcases xs with _ | ⟨x, _ | ⟨y, xs⟩⟩
  · exact escaped?_of_first h bs
  · exact escaped?_of_second h x bs
  · simp only [List.cons_append, escaped?]
    split <;> rfl

/-- What stands before a byte that is no digit, and what stands behind it, are decoded apart. -/
theorem decode_append {b : UInt8} (h : hexValue? b = none) (xs bs : List UInt8) :
    decode (xs ++ b :: bs) = decode xs ++ decode (b :: bs) := by
  -- An escape takes up three bytes, so the induction is on the length.
  induction hn : xs.length using Nat.strong_induction_on generalizing xs with
  | _ n ih =>
    subst hn
    cases xs with
    | nil => rfl
    | cons x xs =>
      have tail := ih xs.length (Nat.lt_succ_self _) xs rfl
      by_cases hx : x = 0x25
      · subst hx
        rw [List.cons_append, decode_percent, decode_percent, escaped?_append h]
        rcases he : escaped? xs with _ | ⟨byte, rest⟩
        · exact congrArg (0x25 :: ·) tail
        · have shorter := Nat.lt_succ_of_lt (length_lt_of_escaped? he)
          exact congrArg (byte :: ·) (ih rest.length shorter rest rfl)
      · rw [List.cons_append, decode_cons_of_ne hx, decode_cons_of_ne hx, tail, List.cons_append]

theorem escaped?_hexDigits {m n : Nat} (hm : m < 16) (hn : n < 16) (bs : List UInt8) :
    escaped? (UInt8.ofNat (hexDigit m).toNat :: UInt8.ofNat (hexDigit n).toNat :: bs) =
      some (UInt8.ofNat (m * 16 + n), bs) := by
  have value : ∀ k < 16, hexValue? (UInt8.ofNat (hexDigit k).toNat) = some k := by decide
  simp only [escaped?, value m hm, value n hn]

theorem toNat_lt_of_isHexDigit (h : isHexDigit c = true) : c.toNat < 128 := by
  simp only [isHexDigit, Bool.or_eq_true, Bool.and_eq_true, decide_eq_true_iff] at h
  omega

theorem isSome_hexValue?_ofNat (h : c.toNat < 128) :
    (hexValue? (UInt8.ofNat c.toNat)).isSome = isHexDigit c := by
  have value : (UInt8.ofNat c.toNat).toNat = c.toNat := by
    rw [UInt8.toNat_ofNat']
    omega
  rw [Bool.eq_iff_iff, isSome_hexValue?, value]
  simp only [isHexDigit, Bool.or_eq_true, Bool.and_eq_true, decide_eq_true_iff, or_assoc]

theorem utf8_encode_of_isHexDigit (hs : Sparing reserved) (h : isHexDigit c = true)
    (cs : List Char) :
    Utf8.encode (encode reserved (c :: cs)) =
      UInt8.ofNat c.toNat :: Utf8.encode (encode reserved cs) := by
  rw [encode_cons, hs.digit c h, if_neg Bool.false_ne_true, utf8_append, utf8_cons,
    utf8EncodeChar_of_lt (toNat_lt_of_isHexDigit h)]
  rfl

/-- Where a character is no digit, neither is the first byte of what it is written as. -/
theorem utf8_encode_of_not_isHexDigit (reserved : Char → Bool) (h : isHexDigit c = false)
    (cs : List Char) :
    ∃ b bs, Utf8.encode (encode reserved (c :: cs)) = b :: bs ∧ hexValue? b = none := by
  rw [encode_cons, utf8_append]
  split
  · obtain ⟨b, bs, hb⟩ := exists_utf8EncodeChar_eq_cons c
    rw [encodeChar, hb]
    exact ⟨0x25, _, rfl, by decide⟩
  · rw [utf8_cons]
    by_cases hc : c.toNat < 128
    · rw [utf8EncodeChar_of_lt hc]
      refine ⟨_, _, rfl, ?_⟩
      rw [← Option.isNone_iff_eq_none, ← Option.not_isSome, isSome_hexValue?_ofNat hc, h]
      rfl
    · obtain ⟨b, bs, hb⟩ := exists_utf8EncodeChar_eq_cons c
      have high := le_toNat_of_mem_utf8EncodeChar (Nat.le_of_not_lt hc) (hb ▸ List.mem_cons_self)
      rw [hb]
      refine ⟨b, _, rfl, ?_⟩
      rw [← Option.not_isSome_iff_eq_none, isSome_hexValue?]
      omega

theorem escaped?_utf8_encode {h l : Char} (hh : isHexDigit h = true)
    (hl : isHexDigit l = true) :
    ∃ b, ∀ {reserved : Char → Bool}, Sparing reserved → ∀ cs,
      escaped? (Utf8.encode (encode reserved (h :: l :: cs))) =
        some (b, Utf8.encode (encode reserved cs)) := by
  obtain ⟨m, hm⟩ := Option.isSome_iff_exists.mp
    ((isSome_hexValue?_ofNat (toNat_lt_of_isHexDigit hh)).trans hh)
  obtain ⟨n, hn⟩ := Option.isSome_iff_exists.mp
    ((isSome_hexValue?_ofNat (toNat_lt_of_isHexDigit hl)).trans hl)
  refine ⟨UInt8.ofNat (m * 16 + n), fun hs cs => ?_⟩
  rw [utf8_encode_of_isHexDigit hs hh, utf8_encode_of_isHexDigit hs hl]
  simp only [escaped?, hm, hn]

theorem escaped?_utf8_encode_eq_none (hs : Sparing reserved) (h : startsDigits cs = false) :
    escaped? (Utf8.encode (encode reserved cs)) = none := by
  cases cs with
  | nil => rfl
  | cons c cs =>
    cases hc : isHexDigit c with
    | false =>
      obtain ⟨b, bs, he, hb⟩ := utf8_encode_of_not_isHexDigit reserved hc cs
      rw [he]
      exact escaped?_of_first hb bs
    | true =>
      rw [utf8_encode_of_isHexDigit hs hc]
      cases cs with
      | nil => rfl
      | cons d cs =>
        have hd : isHexDigit d = false := by simpa [startsDigits, hc] using h
        obtain ⟨b, bs, he, hb⟩ := utf8_encode_of_not_isHexDigit reserved hd cs
        rw [he]
        exact escaped?_of_second hb _ bs

theorem decode_utf8_encodeByte (b : UInt8) (bs : List UInt8) :
    decode (Utf8.encode (encodeByte b) ++ bs) = b :: decode bs := by
  have bound := b.toNat_lt
  have high : b.toNat / 16 < 16 := by omega
  have low : b.toNat % 16 < 16 := by omega
  have digits : Utf8.encode (encodeByte b) ++ bs =
      0x25 :: UInt8.ofNat (hexDigit (b.toNat / 16)).toNat ::
        UInt8.ofNat (hexDigit (b.toNat % 16)).toNat :: bs := by
    rw [encodeByte, utf8_cons, utf8_cons, utf8_cons, utf8EncodeChar_percent,
      utf8EncodeChar_of_lt (toNat_lt_of_isHexDigit (isHexDigit_hexDigit high)),
      utf8EncodeChar_of_lt (toNat_lt_of_isHexDigit (isHexDigit_hexDigit low))]
    rfl
  rw [digits, decode_percent, escaped?_hexDigits high low, Nat.div_add_mod']
  simp

theorem decode_utf8_encodeChar (c : Char) (bs : List UInt8) :
    decode (Utf8.encode (encodeChar c) ++ bs) = String.utf8EncodeChar c ++ decode bs := by
  unfold encodeChar
  induction String.utf8EncodeChar c with
  | nil => rfl
  | cons b xs ih =>
    rw [List.flatMap_cons, utf8_append, List.append_assoc, decode_utf8_encodeByte, ih]
    rfl

theorem decode_utf8_cons_of_ne (h : c ≠ '%') (bs : List UInt8) :
    decode (String.utf8EncodeChar c ++ bs) = String.utf8EncodeChar c ++ decode bs :=
  decode_append_of_not_mem (percent_not_mem_utf8EncodeChar h) bs

theorem exists_of_startsDigits (h : startsDigits cs = true) :
    ∃ a b rest, cs = a :: b :: rest ∧ isHexDigit a = true ∧ isHexDigit b = true := by
  rcases cs with _ | ⟨a, _ | ⟨b, rest⟩⟩
  · cases h
  · cases h
  · rw [startsDigits, Bool.and_eq_true] at h
    exact ⟨a, b, rest, rfl, h⟩

theorem sparing_nothing : Sparing fun _ => false := ⟨rfl, fun _ _ => rfl⟩

theorem encode_nothing (cs : List Char) : encode (fun _ => false) cs = cs :=
  encode_of_unreserved fun _ _ => rfl

theorem decode_utf8_encode (hs : Sparing reserved) (cs : List Char) :
    decode (Utf8.encode (encode reserved cs)) = decode (Utf8.encode cs) := by
  -- An escape takes up three characters, so the induction is on the length.
  induction hn : cs.length using Nat.strong_induction_on generalizing cs with
  | _ n ih =>
    subst hn
    rcases cs with _ | ⟨c, cs⟩
    · rfl
    have tail := ih cs.length (Nat.lt_succ_self _) cs rfl
    by_cases hc : c = '%'
    · subst hc
      have left : Utf8.encode (encode reserved ('%' :: cs)) =
          0x25 :: Utf8.encode (encode reserved cs) := by
        rw [encode_cons, hs.percent, if_neg Bool.false_ne_true, utf8_append, utf8_cons,
          utf8EncodeChar_percent]
        rfl
      rw [left, utf8_cons, utf8EncodeChar_percent, List.singleton_append, decode_percent,
        decode_percent]
      cases hd : startsDigits cs with
      | true =>
        obtain ⟨a, b, rest, rfl, ha, hb⟩ := exists_of_startsDigits hd
        obtain ⟨byte, he⟩ := escaped?_utf8_encode ha hb
        have plain := he sparing_nothing rest
        rw [encode_nothing, encode_nothing] at plain
        have shorter : rest.length < ('%' :: a :: b :: rest).length := by
          simp only [List.length_cons]
          omega
        rw [he hs, plain]
        exact congrArg (byte :: ·) (ih rest.length shorter rest rfl)
      | false =>
        have plain := escaped?_utf8_encode_eq_none sparing_nothing hd
        rw [encode_nothing] at plain
        rw [escaped?_utf8_encode_eq_none hs hd, plain]
        exact congrArg (0x25 :: ·) tail
    · rw [encode_cons, utf8_append, utf8_cons, decode_utf8_cons_of_ne hc, ← tail]
      split
      · exact decode_utf8_encodeChar c _
      · rw [utf8_cons c [], List.append_assoc]
        exact decode_utf8_cons_of_ne hc _

theorem decode_utf8_of_not_hasEscape (h : hasEscape cs = false) :
    decode (Utf8.encode cs) = Utf8.encode cs := by
  induction cs with
  | nil => rfl
  | cons c cs ih =>
    rw [hasEscape, Bool.or_eq_false_iff] at h
    rw [utf8_cons]
    by_cases hc : c = '%'
    · subst hc
      have hd : startsDigits cs = false := by simpa using h.1
      have plain := escaped?_utf8_encode_eq_none sparing_nothing hd
      rw [encode_nothing] at plain
      rw [utf8EncodeChar_percent, List.singleton_append, decode_percent, plain]
      exact congrArg (0x25 :: ·) (ih h.2)
    · rw [decode_utf8_cons_of_ne hc, ih h.2]

theorem length_decode_utf8_lt (h : hasEscape cs = true) :
    (decode (Utf8.encode cs)).length < (Utf8.encode cs).length := by
  induction cs with
  | nil => cases h
  | cons c cs ih =>
    rw [hasEscape, Bool.or_eq_true] at h
    rw [utf8_cons]
    by_cases hc : c = '%'
    · subst hc
      rw [utf8EncodeChar_percent, List.singleton_append, decode_percent]
      rcases he : escaped? (Utf8.encode cs) with _ | ⟨b, rest⟩
      -- A `%` with two digits behind it is read as an escape; else the escape is further on.
      · obtain hd | ht := h
        · obtain ⟨a, b, rest, rfl, ha, hb⟩ := exists_of_startsDigits (by simpa using hd)
          obtain ⟨byte, some⟩ := escaped?_utf8_encode ha hb
          have plain := some sparing_nothing rest
          rw [encode_nothing, encode_nothing, he] at plain
          cases plain
        · simpa using ih ht
      · have shorter := length_lt_of_escaped? he
        have := length_decode_le rest
        simp only [List.length_cons]
        omega
    · have ht : hasEscape cs = true := by simpa [hc] using h
      rw [decode_utf8_cons_of_ne hc, List.length_append, List.length_append]
      exact Nat.add_lt_add_left (ih ht) _

end ForumDigest.Url.Percent
