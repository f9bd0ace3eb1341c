import ForumDigest.Proofs.Url.FormParts
import ForumDigest.Proofs.Url.Undivided

namespace ForumDigest.Url

open Percent

def pairs? (u : Url) : Option (List (String × String)) := u.query.map fun q => Form.decode q.toList

variable {c : Char} {cs xs ys : List Char}

def cleanedFront (cs : List Char) : List Char := (cs.dropWhile isTrimmed).filter isKept

def cleanedBack (cs : List Char) : List Char :=
  (cs.reverse.dropWhile isTrimmed).reverse.filter isKept

theorem takeWhile_append_cons {p : Char → Bool} (h : p c = false) (xs ys : List Char) :
    (xs ++ c :: ys).takeWhile p = xs.takeWhile p := by
  rw [List.takeWhile_append, List.takeWhile_cons, h, if_neg Bool.false_ne_true, List.append_nil]
  split
  · rename_i whole
    exact (List.IsPrefix.eq_of_length (List.takeWhile_prefix p) whole).symm
  · rfl

theorem dropWhile_append_cons {p : Char → Bool} (h : p c = false) (xs ys : List Char) :
    (xs ++ c :: ys).dropWhile p = xs.dropWhile p ++ c :: ys := by
  rw [List.dropWhile_append, List.dropWhile_cons, h, if_neg Bool.false_ne_true]
  split
  · rename_i empty
    rw [List.isEmpty_iff.mp empty, List.nil_append]
  · rfl

theorem not_isTrimmed_of_visible (h : 0x20 < c.toNat) : isTrimmed c = false :=
  decide_eq_false (Nat.not_le_of_lt h)

theorem cleanedFront_append_cons (h : 0x20 < c.toNat) (xs ys : List Char) :
    cleanedFront (xs ++ c :: ys) = cleanedFront xs ++ c :: ys.filter isKept := by
  rw [cleanedFront, dropWhile_append_cons (not_isTrimmed_of_visible h), List.filter_append,
    List.filter_cons, isKept_of_visible h, if_pos rfl]
  rfl

theorem cleaned_append_cons (h : 0x20 < c.toNat) (xs ys : List Char) :
    cleaned (xs ++ c :: ys) = cleanedFront xs ++ c :: cleanedBack ys := by
  have trimmed := not_isTrimmed_of_visible h
  have back : ((xs.dropWhile isTrimmed ++ c :: ys).reverse.dropWhile isTrimmed).reverse =
      xs.dropWhile isTrimmed ++ c :: (ys.reverse.dropWhile isTrimmed).reverse := by
    simp [dropWhile_append_cons trimmed]
  change List.filter isKept _ = _
  rw [dropWhile_append_cons trimmed, back, List.filter_append, List.filter_cons,
    isKept_of_visible h, if_pos rfl]
  rfl

theorem cleanedBack_append_cons (h : 0x20 < c.toNat) (xs ys : List Char) :
    cleanedBack (xs ++ c :: ys) = xs.filter isKept ++ c :: cleanedBack ys := by
  have back : ((xs ++ c :: ys).reverse.dropWhile isTrimmed).reverse =
      xs ++ c :: (ys.reverse.dropWhile isTrimmed).reverse := by
    simp [dropWhile_append_cons (not_isTrimmed_of_visible h)]
  rw [cleanedBack, back, List.filter_append, List.filter_cons, isKept_of_visible h, if_pos rfl]
  rfl

theorem cleanedBack_of_visible (h : ∀ c ∈ cs, 0x20 < c.toNat) : cleanedBack cs = cs := by
  obtain rfl | ⟨xs, c, rfl⟩ := cs.eq_nil_or_concat
  · rfl
  · rw [List.concat_eq_append] at h ⊢
    have front : ∀ d ∈ xs, 0x20 < d.toNat := fun d hd => h d (by simp [hd])
    rw [cleanedBack_append_cons (h c (by simp)), filter_isKept_of_visible front]
    rfl

theorem scheme?_append (xs ys : List Char) :
    scheme? (xs ++ '?' :: ys) = (scheme? xs).map fun p => (p.1, p.2 ++ '?' :: ys) := by
  have mark : isSchemeChar '?' = false := by decide
  unfold scheme?
  rw [takeWhile_append_cons mark, dropWhile_append_cons mark]
  cases xs.takeWhile isSchemeChar with
  | nil => rfl
  | cons c head =>
    cases xs.dropWhile isSchemeChar with
    | nil => rfl
    | cons d rest =>
      by_cases colon : d = ':'
      · subst colon
        change (if c.isAlpha = true then _ else none) =
          Option.map _ (if c.isAlpha = true then _ else none)
        split <;> rfl
      · split
        · rename_i same
          exact absurd (List.cons.inj same).1 colon
        · split
          · rename_i same
            exact absurd (List.cons.inj same).1 colon
          · rfl

theorem exists_of_scheme? {scheme rest : List Char} (h : scheme? cs = some (scheme, rest)) :
    ∃ front, Undivided front ∧ cs = front ++ rest := by
  unfold scheme? at h
  split at h
  · rename_i first head rest' taken dropped
    split at h
    · obtain ⟨-, rfl⟩ := Prod.mk.inj (Option.some.inj h)
      refine ⟨first :: head ++ [':'], ?_, ?_⟩
      · rw [← taken]
        refine undivided_append.mpr ⟨fun d hd => ?_, by simp⟩
        have kind := List.mem_takeWhile_imp hd
        constructor
        · rintro rfl
          exact absurd kind (by decide)
        · rintro rfl
          exact absurd kind (by decide)
      · rw [← taken, List.append_assoc, List.singleton_append, ← dropped,
          List.takeWhile_append_dropWhile]
    · cases h
  · cases h

theorem sparingForm_inQuery : Form.SparingForm inQuery where
  percent := by decide
  digit c hc := of_ascii (p := fun c => isHexDigit c = true → inQuery c = false) (by decide)
    (toNat_lt_of_isHexDigit hc) hc
  ampersand := by decide
  equals := by decide
  plus := by decide

theorem sparingForm_inSpecialQuery : Form.SparingForm inSpecialQuery :=
  ⟨sparing_inSpecialQuery, by decide, by decide, by decide⟩

variable {s : String} {u : Url}

theorem parts_of_parse (h : parse s = .ok u) :
    ∃ reserved, Form.SparingForm reserved ∧
      u.query = (cut (cleaned s.toList)).query.map (fun q => String.ofList (encode reserved q)) ∧
      u.fragment = (cut (cleaned s.toList)).fragment.map
        fun f => String.ofList (encode inFragment f) := by
  unfold parse at h
  split at h
  · cases h
  · rename_i scheme rest found
    obtain ⟨front, undivided, parts⟩ := exists_of_scheme? found
    obtain ⟨⟨a, path⟩, -, h⟩ := exists_of_bind_ok h
    cases h
    rw [parts, cut_append undivided]
    refine ⟨_, ?_, rfl, rfl⟩
    split
    · exact sparingForm_inSpecialQuery
    · exact sparingForm_inQuery

theorem pairs?_of_parse (h : parse s = .ok u) :
    u.pairs? = (cut (cleaned s.toList)).query.map Form.decode := by
  obtain ⟨reserved, sparing, query, -⟩ := parts_of_parse h
  rw [pairs?, query, Option.map_map]
  refine congrArg (Option.map · _) (funext fun q => ?_)
  change Form.decode (String.ofList (encode reserved q)).toList = _
  rw [String.toList_ofList, Form.decode_percent_encode sparing]

theorem undivided_of_parse (h : parse s = .ok u) (query : u.query = none)
    (fragment : u.fragment = none) : Undivided s.toList := by
  obtain ⟨reserved, -, hq, hf⟩ := parts_of_parse h
  rw [query, eq_comm, Option.map_eq_none_iff] at hq
  rw [fragment, eq_comm, Option.map_eq_none_iff] at hf
  have unmarked : '#' ∉ cleaned s.toList := not_mem_of_cut_fragment hf
  have unasked : '?' ∉ cleaned s.toList := by
    intro hm
    obtain ⟨xs, ys, split, -⟩ := List.eq_append_cons_of_mem hm
    rw [split, List.append_cons] at hq unmarked
    obtain ⟨zs, some⟩ := cut_query_of_mem (by simp) unmarked
    rw [some] at hq
    cases hq
  have read {c : Char} (visible : 0x20 < c.toNat) (h : c ∈ s.toList) : c ∈ cleaned s.toList := by
    obtain ⟨xs, ys, split, -⟩ := List.eq_append_cons_of_mem h
    rw [split, cleaned_append_cons visible]
    exact List.mem_append_right _ List.mem_cons_self
  intro c hc
  constructor
  · rintro rfl
    exact unasked (read (by decide) hc)
  · rintro rfl
    exact unmarked (read (by decide) hc)

def Places (cs : List Char) : Prop :=
  ∃ scheme rest place, scheme? cs = some (scheme, rest) ∧
    hierarchy (String.ofList scheme) rest = .ok place

/-- The text can stand in front of a query. -/
structure Leads (s : String) : Prop where
  undivided : Undivided s.toList
  parsed : ∃ u, parse (s ++ "?") = .ok u

theorem exists_of_divided (h : ¬ Undivided cs) :
    ∃ xs c ys, cs = xs ++ c :: ys ∧ Undivided xs ∧ (c = '?' ∨ c = '#') := by
  induction cs with
  | nil => exact absurd undivided_nil h
  | cons c cs ih =>
    by_cases mark : c = '?' ∨ c = '#'
    · exact ⟨[], c, cs, rfl, undivided_nil, mark⟩
    · have other := not_or.mp mark
      obtain ⟨xs, d, ys, rfl, front, hd⟩ := ih fun rest => h (undivided_cons.mpr ⟨other, rest⟩)
      exact ⟨c :: xs, d, ys, rfl, undivided_cons.mpr ⟨other, front⟩, hd⟩

theorem Undivided.cleanedFront (h : Undivided cs) : Undivided (cleanedFront cs) :=
  (h.dropWhile isTrimmed).subset fun _ hc => (List.mem_filter.mp hc).1

theorem exists_parse_iff : (∃ u, parse s = .ok u) ↔
    ∃ scheme rest place, scheme? (cleaned s.toList) = some (scheme, rest) ∧
      hierarchy (String.ofList scheme) (cut rest).head = .ok place := by
  constructor
  · rintro ⟨u, h⟩
    unfold parse at h
    split at h
    · cases h
    · rename_i scheme rest found
      obtain ⟨place, placed, -⟩ := exists_of_bind_ok h
      exact ⟨scheme, rest, place, found, placed⟩
  · rintro ⟨scheme, rest, place, found, placed⟩
    unfold parse
    rw [found]
    dsimp only
    rw [placed]
    exact ⟨_, rfl⟩

theorem exists_parse_of_undivided (h : Undivided s.toList) :
    (∃ u, parse s = .ok u) ↔ Places (cleaned s.toList) := by
  rw [exists_parse_iff]
  refine exists_congr fun scheme => exists_congr fun rest => exists_congr fun place => ?_
  refine and_congr_right fun found => ?_
  rw [cut_of_undivided (undivided_of_scheme? h.cleaned found).2]

theorem exists_parse_of_query (h : Undivided s.toList) (t : String) :
    (∃ u, parse (s ++ "?" ++ t) = .ok u) ↔ Places (cleanedFront s.toList) := by
  have spelled : (s ++ "?" ++ t).toList = s.toList ++ '?' :: t.toList := by simp
  rw [exists_parse_iff, spelled, cleaned_append_cons (by decide), scheme?_append]
  rcases found : scheme? (cleanedFront s.toList) with _ | ⟨scheme, rest⟩
  · simp [Places, found]
  · have undivided := (undivided_of_scheme? h.cleanedFront found).2
    have head : (cut (rest ++ '?' :: cleanedBack t.toList)).head = rest := by
      rw [cut_append undivided]
      simp [cut]
    simp [Places, found, head]

theorem leads_iff (h : Undivided s.toList) (t : String) :
    Leads s ↔ ∃ u, parse (s ++ "?" ++ t) = .ok u := by
  rw [exists_parse_of_query h, ← exists_parse_of_query h "", String.append_empty]
  exact ⟨Leads.parsed, fun parsed => ⟨h, parsed⟩⟩

/-- A URL without query and fragment leads a query, unless its text ends with blanks. -/
theorem leads_of_parse (h : parse s = .ok u) (query : u.query = none) (fragment : u.fragment = none)
    (last : ∀ c ∈ s.toList.getLast?, 0x20 < c.toNat) : Leads s := by
  have undivided := undivided_of_parse h query fragment
  have whole : cleaned s.toList = cleanedFront s.toList := by
    obtain empty | ⟨xs, c, hs⟩ := s.toList.eq_nil_or_concat
    · rw [empty]
      rfl
    · rw [List.concat_eq_append] at hs
      have visible : 0x20 < c.toNat := last c (by simp [hs])
      rw [hs, cleaned_append_cons visible, cleanedFront_append_cons visible]
      rfl
  rw [leads_iff undivided "", exists_parse_of_query undivided, ← whole,
    ← exists_parse_of_undivided undivided]
  exact ⟨u, h⟩

theorem query_cut_cleaned (h : Undivided xs) (ys : List Char) :
    (cut (cleaned (xs ++ '?' :: ys))).query = some ((cleanedBack ys).takeWhile (· ≠ '#')) := by
  rw [cleaned_append_cons (by decide), cut_append h.cleanedFront]
  simp [cut]

end ForumDigest.Url
