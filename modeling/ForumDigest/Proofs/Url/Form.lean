import ForumDigest.Proofs.Text.Utf8
import ForumDigest.Proofs.Url.Path
import ForumDigest.Url.Form

namespace ForumDigest.Url.Form

open Text Percent

variable {c : Char} {cs : List Char} {bs : List UInt8}

theorem toNat_lt_of_isPlain (h : isPlain c = true) : c.toNat < 128 := by
  simp only [isPlain, Bool.or_eq_true, beq_iff_eq] at h
  obtain (((h | rfl) | rfl) | rfl) | rfl := h
  · change (decide ('A'.val ≤ c.val ∧ c.val ≤ 'Z'.val) ||
      decide ('a'.val ≤ c.val) && decide (c.val ≤ 'z'.val) ||
      decide ('0'.val ≤ c.val) && decide (c.val ≤ '9'.val)) = true at h
    simp only [Bool.or_eq_true, Bool.and_eq_true, decide_eq_true_iff, UInt32.le_iff_toNat_le] at h
    change ((65 ≤ c.toNat ∧ c.toNat ≤ 90) ∨ (97 ≤ c.toNat ∧ c.toNat ≤ 122)) ∨
      (48 ≤ c.toNat ∧ c.toNat ≤ 57) at h
    omega
  all_goals decide

theorem isPlain_of_isHexDigit (h : isHexDigit c = true) : isPlain c = true :=
  of_ascii (p := fun c => isHexDigit c = true → isPlain c = true) (by decide)
    (toNat_lt_of_isHexDigit h) h

theorem mem_encodeText (h : c ∈ encodeText cs) : isPlain c = true ∨ c = '+' ∨ c = '%' := by
  obtain ⟨d, -, hc⟩ := List.mem_flatMap.mp h
  unfold encodeChar at hc
  split at hc
  · exact .inr (.inl (List.mem_singleton.mp hc))
  · split at hc
    · rename_i plain
      exact .inl (List.mem_singleton.mp hc ▸ plain)
    · obtain rfl | hx := mem_encodeChar hc
      · exact .inr (.inr rfl)
      · exact .inl (isPlain_of_isHexDigit hx)

theorem not_mem_encodeText (h : c ∈ ['&', '=', '?', '#']) (cs : List Char) : c ∉ encodeText cs := by
  intro hm
  have plain := mem_encodeText hm
  simp only [List.mem_cons, List.not_mem_nil, or_false] at h
  obtain rfl | rfl | rfl | rfl := h <;> revert plain <;> decide

def spaced (bs : List UInt8) : List UInt8 := bs.map fun b => if b == 0x2B then 0x20 else b

theorem decodeText_eq (cs : List Char) :
    decodeText cs = String.ofList (Utf8.decodeLossy (Percent.decode (spaced (Utf8.encode cs)))) :=
  rfl

theorem spaced_append (xs ys : List UInt8) : spaced (xs ++ ys) = spaced xs ++ spaced ys :=
  List.map_append

theorem spaced_of_not_mem (h : 0x2B ∉ bs) : spaced bs = bs := by
  unfold spaced
  refine (List.map_congr_left fun b hb => ?_).trans (List.map_id bs)
  have other : b ≠ 0x2B := fun he => h (he ▸ hb)
  simp [other]

theorem decode_encodeChar (c : Char) (bs : List UInt8) :
    Percent.decode (spaced (Utf8.encode (encodeChar c)) ++ bs) =
      String.utf8EncodeChar c ++ Percent.decode bs := by
  unfold encodeChar
  split
  · rename_i space
    rw [beq_iff_eq.mp space]
    exact decode_cons_of_ne (by decide) bs
  · split
    · rename_i plain
      have plus : c ≠ '+' := by
        rintro rfl
        revert plain
        decide
      have percent : c ≠ '%' := by
        rintro rfl
        revert plain
        decide
      have byte : 0x2B ∉ Utf8.encode [c] := by
        rw [utf8_cons, show Utf8.encode [] = [] from rfl, List.append_nil]
        exact ascii_not_mem_utf8EncodeChar (d := '+') (by decide) plus
      rw [spaced_of_not_mem byte, utf8_cons, show Utf8.encode [] = [] from rfl, List.append_nil,
        decode_utf8_cons_of_ne percent]
    · have byte : 0x2B ∉ Utf8.encode (Percent.encodeChar c) := by
        intro hb
        obtain ⟨d, hd, hb⟩ := List.mem_flatMap.mp hb
        refine ascii_not_mem_utf8EncodeChar (d := '+') (by decide) ?_ hb
        rintro rfl
        exact absurd (mem_encodeChar hd) (by decide)
      rw [spaced_of_not_mem byte, decode_utf8_encodeChar]

theorem decode_encodeText (cs : List Char) :
    Percent.decode (spaced (Utf8.encode (encodeText cs))) = Utf8.encode cs := by
  induction cs with
  | nil => rfl
  | cons c cs ih =>
    have split : encodeText (c :: cs) = encodeChar c ++ encodeText cs := rfl
    rw [split, utf8_append, spaced_append, decode_encodeChar, ih, utf8_cons]

theorem decodeText_encodeText (s : String) : decodeText (encodeText s.toList) = s := by
  rw [decodeText_eq, decode_encodeText, Utf8.decodeLossy_encode, String.ofList_toList]

variable {pair : String × String} {pairs : List (String × String)}

def isFormChar (c : Char) : Bool := isPlain c || c ∈ ['+', '%', '=', '&']

theorem toNat_lt_of_isFormChar (h : isFormChar c = true) : c.toNat < 128 := by
  rw [isFormChar, Bool.or_eq_true, decide_eq_true_iff] at h
  obtain plain | mark := h
  · exact toNat_lt_of_isPlain plain
  · simp only [List.mem_cons, List.not_mem_nil, or_false] at mark
    obtain rfl | rfl | rfl | rfl := mark <;> decide

theorem isFormChar_of_mem_encodeText (h : c ∈ encodeText cs) : isFormChar c = true := by
  obtain plain | rfl | rfl := mem_encodeText h
  · simp [isFormChar, plain]
  · decide
  · decide

theorem isFormChar_of_mem_encodePair (h : c ∈ encodePair pair) : isFormChar c = true := by
  rw [encodePair, List.mem_append, List.mem_cons] at h
  obtain h | rfl | h := h
  · exact isFormChar_of_mem_encodeText h
  · decide
  · exact isFormChar_of_mem_encodeText h

theorem ampersand_not_mem_encodePair (pair : String × String) : '&' ∉ encodePair pair := by
  rw [encodePair, List.mem_append, List.mem_cons]
  rintro (h | h | h)
  · exact not_mem_encodeText (by decide) _ h
  · cases h
  · exact not_mem_encodeText (by decide) _ h

theorem encodePair_ne_nil (pair : String × String) : encodePair pair ≠ [] := by
  simp [encodePair]

theorem decide_ne_of_not_mem (h : c ∉ cs) : ∀ d ∈ cs, decide (d ≠ c) = true :=
  fun _ hd => decide_eq_true fun he => h (he ▸ hd)

theorem takeWhile_append_of_not_mem {xs : List Char} (h : c ∉ xs) (ys : List Char) :
    (xs ++ c :: ys).takeWhile (· ≠ c) = xs := by
  rw [List.takeWhile_append_of_pos (decide_ne_of_not_mem h)]
  simp

theorem dropWhile_append_of_not_mem {xs : List Char} (h : c ∉ xs) (ys : List Char) :
    (xs ++ c :: ys).dropWhile (· ≠ c) = c :: ys := by
  rw [List.dropWhile_append_of_pos (decide_ne_of_not_mem h)]
  simp

theorem decodePair_append {xs : List Char} (h : '=' ∉ xs) (ys : List Char) :
    decodePair (xs ++ '=' :: ys) = (decodeText xs, decodeText ys) := by
  rw [decodePair, takeWhile_append_of_not_mem h, dropWhile_append_of_not_mem h]
  rfl

theorem decodePair_encodePair (pair : String × String) : decodePair (encodePair pair) = pair := by
  have name : '=' ∉ encodeText pair.1.toList := not_mem_encodeText (by decide) _
  rw [encodePair, decodePair_append name, decodeText_encodeText, decodeText_encodeText]

theorem foldl_append_cons (h : cs ≠ []) (pairs : List (String × String)) :
    pairs.foldl append cs = List.intercalate ['&'] (cs :: pairs.map encodePair) := by
  induction pairs generalizing cs with
  | nil => simp
  | cons pair pairs ih =>
    have added : append cs pair = cs ++ '&' :: encodePair pair := by simp [append, h]
    rw [List.foldl_cons, added, ih (by simp), List.map_cons]
    cases pairs <;> simp [List.intercalate_cons_cons]

theorem foldl_append (pairs : List (String × String)) : pairs.foldl append [] = encode pairs := by
  cases pairs with
  | nil => rfl
  | cons pair pairs => exact foldl_append_cons (encodePair_ne_nil pair) pairs

theorem mem_append (h : c ∈ append cs pair) : c ∈ cs ∨ isFormChar c = true := by
  unfold append at h
  split at h
  · exact .inr (isFormChar_of_mem_encodePair h)
  · rw [List.mem_append, List.mem_cons] at h
    obtain h | rfl | h := h
    · exact .inl h
    · exact .inr (by decide)
    · exact .inr (isFormChar_of_mem_encodePair h)

theorem mem_foldl_append (h : c ∈ pairs.foldl append cs) : c ∈ cs ∨ isFormChar c = true := by
  induction pairs generalizing cs with
  | nil => exact .inl h
  | cons pair pairs ih =>
    obtain h | h := ih h
    · exact mem_append h
    · exact .inr h

theorem isFormChar_of_mem_encode (h : c ∈ encode pairs) : isFormChar c = true := by
  rw [← foldl_append] at h
  obtain h | h := mem_foldl_append h
  · cases h
  · exact h

theorem splitOn_encode (h : pairs ≠ []) : (encode pairs).splitOn '&' = pairs.map encodePair := by
  refine List.splitOn_intercalate '&' (fun l hl => ?_) (by simpa using h)
  obtain ⟨pair, -, rfl⟩ := List.mem_map.mp hl
  exact ampersand_not_mem_encodePair pair

theorem decode_encode (pairs : List (String × String)) : decode (encode pairs) = pairs := by
  cases pairs with
  | nil => rfl
  | cons pair pairs =>
    have full : ∀ part ∈ (pair :: pairs).map encodePair, (!part.isEmpty) = true := by
      intro part hp
      obtain ⟨p, -, rfl⟩ := List.mem_map.mp hp
      simp [encodePair_ne_nil]
    rw [decode, splitOn_encode (by simp), List.filter_eq_self.mpr full, List.map_map]
    refine (List.map_congr_left fun p _ => ?_).trans (List.map_id _)
    exact decodePair_encodePair p

end ForumDigest.Url.Form
