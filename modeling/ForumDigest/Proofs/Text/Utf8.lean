import ForumDigest.Text.Utf8

namespace ForumDigest.Text.Utf8

variable {b : UInt8} {m n value left low high : Nat} {p : Pending} {c : Char}

theorem lead_one (h : b.toNat = n) (small : n < 0x80) : lead b = .whole (Char.ofNat n) := by
  simp only [lead, h, if_pos small]

theorem lead_two (h : b.toNat = m + 0xC0) (great : 2 ≤ m) (small : m < 0x20) :
    lead b = .opens ⟨m, 1, 0x80, 0xBF⟩ := by
  unfold lead
  dsimp only
  rw [h, if_neg (by omega), if_neg (by omega), if_pos (by omega), Nat.add_sub_cancel]

theorem lead_three (h : b.toNat = m + 0xE0) (small : m < 0x10) :
    lead b = .opens ⟨m, 2, if m = 0 then 0xA0 else 0x80, if m = 0xD then 0x9F else 0xBF⟩ := by
  unfold lead
  dsimp only
  rw [h, if_neg (by omega), if_neg (by omega), if_neg (by omega)]
  by_cases first : m = 0
  · simp [first]
  by_cases surrogates : m = 0xD
  · simp [surrogates]
  · simp only [beq_iff_eq, first, surrogates, if_false]
    rw [if_neg (by omega), if_neg (by omega), if_pos (by omega), Nat.add_sub_cancel]

theorem lead_four (h : b.toNat = m + 0xF0) (small : m ≤ 4) :
    lead b = .opens ⟨m, 3, if m = 0 then 0x90 else 0x80, if m = 4 then 0x8F else 0xBF⟩ := by
  unfold lead
  dsimp only
  rw [h, if_neg (by omega), if_neg (by omega), if_neg (by omega)]
  by_cases first : m = 0
  · simp [first]
  by_cases last : m = 4
  · simp [last]
  · simp only [beq_iff_eq, first, last, if_false]
    rw [if_neg (by omega), if_neg (by omega), if_neg (by omega), if_neg (by omega),
      if_pos (by omega), Nat.add_sub_cancel]

theorem scan_whole (h : lead b = .whole c) (bs : List UInt8) :
    scan none (b :: bs) = some c :: scan none bs := by
  rw [scan, h]

theorem scan_opens (h : lead b = .opens p) (bs : List UInt8) :
    scan none (b :: bs) = scan (some p) bs := by
  rw [scan, h]

theorem scan_last (h : b.toNat = m + 0x80) (least : low ≤ m + 0x80) (greatest : m + 0x80 ≤ high)
    (bs : List UInt8) :
    scan (some ⟨value, 1, low, high⟩) (b :: bs) =
      some (Char.ofNat (value * 64 + m)) :: scan none bs := by
  rw [scan, h, if_pos ⟨least, greatest⟩]
  simp

theorem scan_more (h : b.toNat = m + 0x80) (least : low ≤ m + 0x80) (greatest : m + 0x80 ≤ high)
    (bs : List UInt8) :
    scan (some ⟨value, left + 2, low, high⟩) (b :: bs) =
      scan (some ⟨value * 64 + m, left + 1, 0x80, 0xBF⟩) bs := by
  rw [scan, h, if_pos ⟨least, greatest⟩]
  simp

theorem toNat_ofNat_add {m k : Nat} (h : m + k < 256) : (UInt8.ofNat (m + k)).toNat = m + k := by
  rw [UInt8.toNat_ofNat']
  omega

theorem scan_encodeChar (c : Char) (bs : List UInt8) :
    scan none (String.utf8EncodeChar c ++ bs) = some c :: scan none bs := by
  have valid : c.toNat < 0xD800 ∨ 0xDFFF < c.toNat ∧ c.toNat < 0x110000 := c.valid
  obtain ⟨n, hn⟩ : ∃ n, n = c.val.toNat := ⟨_, rfl⟩
  have whole : Char.ofNat n = c := hn ▸ c.ofNat_toNat
  change c.val.toNat < 0xD800 ∨ 0xDFFF < c.val.toNat ∧ c.val.toNat < 0x110000 at valid
  rw [← hn] at valid
  simp only [String.utf8EncodeChar, ← hn]
  -- Each length of a character has its own first byte; the others are read one by one.
  split
  · have first : (UInt8.ofNat n).toNat = n := toNat_ofNat_add (k := 0) (by omega)
    rw [List.singleton_append, scan_whole (lead_one first (by omega)), whole]
  split
  · have value : n / 64 % 32 * 64 + n % 64 = n := by omega
    rw [List.cons_append, List.singleton_append,
      scan_opens (lead_two (toNat_ofNat_add (by omega)) (by omega) (by omega)),
      scan_last (toNat_ofNat_add (by omega)) (by omega) (by omega), value, whole]
  split
  · have value : (n / 4096 % 16 * 64 + n / 64 % 64) * 64 + n % 64 = n := by omega
    rw [List.cons_append, List.cons_append, List.singleton_append,
      scan_opens (lead_three (toNat_ofNat_add (by omega)) (by omega)),
      scan_more (toNat_ofNat_add (by omega)) (by split <;> omega) (by split <;> omega),
      scan_last (toNat_ofNat_add (by omega)) (by omega) (by omega), value, whole]
  · have value : ((n / 262144 % 8 * 64 + n / 4096 % 64) * 64 + n / 64 % 64) * 64 + n % 64 = n := by
      omega
    rw [List.cons_append, List.cons_append, List.cons_append, List.singleton_append,
      scan_opens (lead_four (toNat_ofNat_add (by omega)) (by omega)),
      scan_more (toNat_ofNat_add (by omega)) (by split <;> omega) (by split <;> omega),
      scan_more (toNat_ofNat_add (by omega)) (by omega) (by omega),
      scan_last (toNat_ofNat_add (by omega)) (by omega) (by omega), value, whole]

theorem scan_encode (cs : List Char) : scan none (encode cs) = cs.map some := by
  induction cs with
  | nil => rfl
  | cons c cs ih =>
    change scan none (String.utf8EncodeChar c ++ encode cs) = some c :: cs.map some
    rw [scan_encodeChar, ih]

theorem decodeLossy_encode (cs : List Char) : decodeLossy (encode cs) = cs := by
  rw [decodeLossy, scan_encode, List.map_map]
  exact List.map_id cs

theorem low_of_lead (h : lead b = .opens p) : 0x80 ≤ p.low := by
  unfold lead at h
  dsimp only at h
  repeat' split at h
  all_goals
    simp only [reduceCtorEq, Lead.opens.injEq] at h
    try simp [← h]

theorem scan_none (b : UInt8) (bs : List UInt8) :
    scan none (b :: bs) = match lead b with
      | .whole c => some c :: scan none bs
      | .opens p => scan (some p) bs
      | .stray => none :: scan none bs := by
  cases h : lead b <;> rw [scan, h]

theorem scan_some (p : Pending) (b : UInt8) (bs : List UInt8) :
    scan (some p) (b :: bs) =
      if p.low ≤ b.toNat ∧ b.toNat ≤ p.high then
        if p.left ≤ 1 then some (Char.ofNat (p.value * 64 + (b.toNat - 0x80))) :: scan none bs
        else scan (some ⟨p.value * 64 + (b.toNat - 0x80), p.left - 1, 0x80, 0xBF⟩) bs
      else none :: scan none (b :: bs) := by
  rw [scan_none]
  rfl

theorem scan_append (hb : b.toNat < 0x80) {p : Option Pending} (hp : ∀ q ∈ p, 0x80 ≤ q.low)
    (xs bs : List UInt8) : scan p (xs ++ b :: bs) = scan p xs ++ scan none (b :: bs) := by
  induction xs generalizing p with
  | nil =>
    cases p with
    | none => rfl
    | some q =>
      have low := hp q rfl
      rw [List.nil_append, scan_some, if_neg (by omega)]
      rfl
  | cons x xs ih =>
    have first : scan none (x :: (xs ++ b :: bs)) = scan none (x :: xs) ++ scan none (b :: bs) := by
      rw [scan_none, scan_none x xs]
      cases hx : lead x with
      | whole c => exact congrArg (some c :: ·) (ih (by simp))
      | opens q =>
        refine ih ?_
        rintro _ ⟨⟩
        exact low_of_lead hx
      | stray => exact congrArg (none :: ·) (ih (by simp))
    cases p with
    | none => exact first
    | some q =>
      rw [List.cons_append, scan_some, scan_some q x xs]
      split
      · split
        · rw [ih (by simp), List.cons_append]
        · exact ih (by simp)
      · exact congrArg (none :: ·) first

/-- What stands before an ASCII character, and what stands behind it, are read apart. -/
theorem decodeLossy_append (hb : b.toNat < 0x80) (xs bs : List UInt8) :
    decodeLossy (xs ++ b :: bs) = decodeLossy xs ++ Char.ofNat b.toNat :: decodeLossy bs := by
  rw [decodeLossy, scan_append hb (by simp), scan_whole (lead_one rfl hb), List.map_append]
  rfl

theorem length_scan_le (p : Option Pending) (bs : List UInt8) :
    (scan p bs).length ≤ p.toList.length + bs.length := by
  induction bs generalizing p with
  | nil => cases p <;> simp [scan]
  | cons b bs ih =>
    have fresh : (scan none bs).length ≤ bs.length := by simpa using ih none
    have begun (q : Pending) : (scan (some q) bs).length ≤ bs.length + 1 := by
      simpa [Nat.add_comm] using ih (some q)
    have first : (scan none (b :: bs)).length ≤ bs.length + 1 := by
      rw [scan_none]
      cases lead b with
      | whole c => simpa using fresh
      | opens q => exact begun q
      | stray => simpa using fresh
    cases p with
    | none => simpa using first
    | some q =>
      have one : (some q).toList.length + (b :: bs).length = bs.length + 2 := by
        simp only [Option.toList_some, List.length_cons, List.length_nil]
        omega
      rw [scan_some, one]
      split
      · split
        · rw [List.length_cons]
          omega
        · exact Nat.le_succ_of_le (begun _)
      · rw [List.length_cons]
        omega

theorem length_decodeLossy_le (bs : List UInt8) : (decodeLossy bs).length ≤ bs.length := by
  simpa [decodeLossy] using length_scan_le none bs

end ForumDigest.Text.Utf8
