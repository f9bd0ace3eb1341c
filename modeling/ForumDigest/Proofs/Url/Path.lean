import ForumDigest.Proofs.Url.Percent
import ForumDigest.Url.Parser

namespace ForumDigest.Url

open Text Percent

theorem utf8_injective {xs ys : List Char} (h : Utf8.encode xs = Utf8.encode ys) : xs = ys := by
  have bytes : (String.ofList xs).toByteArray = (String.ofList ys).toByteArray := by
    rw [String.toByteArray_ofList, String.toByteArray_ofList]
    exact congrArg List.toByteArray h
  exact String.ofList_injective (String.toByteArray_inj.mp bytes)

theorem mem_splitOnP {α : Type} {f : α → Bool} {p cs : List α} (h : p ∈ cs.splitOnP f) :
    (∀ c ∈ p, f c = false) ∧ p.Sublist cs := by
  induction cs generalizing p with
  | nil =>
    obtain rfl : p = [] := by simpa using h
    exact ⟨by simp, List.Sublist.slnil⟩
  | cons x xs ih =>
    rw [List.splitOnP_cons_eq_if_modifyHead] at h
    split at h
    · obtain rfl | h := List.mem_cons.mp h
      · exact ⟨by simp, List.nil_sublist _⟩
      · exact ⟨(ih h).1, (ih h).2.cons x⟩
    · rename_i hx
      obtain ⟨head, tail, hs⟩ := List.exists_cons_of_ne_nil (List.splitOnP_ne_nil f xs)
      rw [hs] at h ih
      obtain rfl | h := List.mem_cons.mp h
      · have hh := ih (List.mem_cons_self)
        refine ⟨fun c hc => ?_, hh.2.cons_cons x⟩
        obtain rfl | hc := List.mem_cons.mp hc
        · exact Bool.eq_false_iff.mpr hx
        · exact hh.1 c hc
      · have ht := ih (List.mem_cons_of_mem _ h)
        exact ⟨ht.1, ht.2.cons x⟩

theorem of_ascii {p : Char → Prop} (h : ∀ n < 128, p (Char.ofNat n)) {c : Char}
    (hc : c.toNat < 128) : p c := by
  have := h c.toNat hc
  rwa [Char.ofNat_toNat] at this

theorem sparing_inPath : Sparing inPath where
  percent := by decide
  digit c hc := of_ascii (p := fun c => isHexDigit c = true → inPath c = false) (by decide)
    (toNat_lt_of_isHexDigit hc) hc

theorem not_isSlash_of_isHexDigit {c : Char} (h : isHexDigit c = true) : isSlash true c = false :=
  of_ascii (p := fun c => isHexDigit c = true → isSlash true c = false) (by decide)
    (toNat_lt_of_isHexDigit h) h

def isDots (cs : List Char) : Bool := isSingleDot cs || isDoubleDot cs

theorem decode_of_isDots {cs : List Char} (h : isDots cs = true) :
    decode (Utf8.encode cs) = Utf8.encode ['.'] ∨
      decode (Utf8.encode cs) = Utf8.encode ['.', '.'] := by
  have spelled : ∀ s ∈ [".", "%2e", "%2E", "..", "%2e%2e", "%2e%2E", "%2E%2e", "%2E%2E", "%2e.",
      "%2E.", ".%2e", ".%2E"], decode (Utf8.encode s.toList) = Utf8.encode ['.'] ∨
        decode (Utf8.encode s.toList) = Utf8.encode ['.', '.'] := by
    decide
  have listed : String.ofList cs ∈ [".", "%2e", "%2E", "..", "%2e%2e", "%2e%2E", "%2E%2e",
      "%2E%2E", "%2e.", "%2E.", ".%2e", ".%2E"] := by
    simpa [isDots, isSingleDot, isDoubleDot, or_assoc] using h
  have := spelled _ listed
  rwa [String.toList_ofList] at this

theorem not_isDots_encode {cs : List Char} (plain : hasEscape cs = false) (one : cs ≠ ['.'])
    (two : cs ≠ ['.', '.']) : isDots (encode inPath cs) = false := by
  by_contra h
  have dots := decode_of_isDots (Bool.not_eq_false _ ▸ h)
  rw [decode_utf8_encode sparing_inPath, decode_utf8_of_not_hasEscape plain] at dots
  obtain h | h := dots
  · exact one (utf8_injective h)
  · exact two (utf8_injective h)

theorem shorten_web (earlier : List String) : shorten .web earlier = earlier.tail := by
  rcases earlier with _ | ⟨s, _ | ⟨t, rest⟩⟩ <;> rfl

theorem addSegment_of_not_dots {raw : List Char} (h : isDots (encode inPath raw) = false)
    (isLast : Bool) (earlier : List String) :
    addSegment .web isLast earlier raw = String.ofList (encode inPath raw) :: earlier := by
  rw [isDots, Bool.or_eq_false_iff] at h
  simp [addSegment, h.1, h.2]

theorem addSegments_of_not_dots {raws : List (List Char)}
    (h : ∀ raw ∈ raws, isDots (encode inPath raw) = false) (earlier : List String) :
    addSegments .web earlier raws =
      (raws.map fun raw => String.ofList (encode inPath raw)).reverse ++ earlier := by
  induction raws generalizing earlier with
  | nil => rfl
  | cons raw raws ih =>
    have head := addSegment_of_not_dots (h raw List.mem_cons_self)
    cases raws with
    | nil => simp [addSegments, head]
    | cons next raws =>
      rw [addSegments, ih fun r hr => h r (List.mem_cons_of_mem _ hr), head]
      · simp
      · simp

def OfPiece (raws : List (List Char)) (s : String) : Prop :=
  s = "" ∨ ∃ raw ∈ raws, isDots (encode inPath raw) = false ∧ s = String.ofList (encode inPath raw)

theorem ofPiece_addSegment {raws : List (List Char)} {raw : List Char} (hr : raw ∈ raws)
    {earlier : List String} (h : ∀ s ∈ earlier, OfPiece raws s) (isLast : Bool) :
    ∀ s ∈ addSegment .web isLast earlier raw, OfPiece raws s := by
  -- Dots add no segment, but where they come last they leave an empty one.
  have closed (segments : List String) (hs : ∀ s ∈ segments, OfPiece raws s) :
      ∀ s ∈ if isLast then "" :: segments else segments, OfPiece raws s := by
    split
    · exact List.forall_mem_cons.mpr ⟨.inl rfl, hs⟩
    · exact hs
  have two := closed (shorten .web earlier) fun s hs => by
    rw [shorten_web] at hs
    exact h s (List.mem_of_mem_tail hs)
  have one := closed earlier h
  cases hd : isDots (encode inPath raw) with
  | false =>
    rw [addSegment_of_not_dots hd]
    exact List.forall_mem_cons.mpr ⟨.inr ⟨raw, hr, hd, rfl⟩, h⟩
  | true =>
    unfold addSegment
    dsimp only
    split
    · exact two
    · rename_i single
      have double : isSingleDot (encode inPath raw) = true := by simpa [isDots, single] using hd
      rw [if_pos double]
      exact one

theorem ofPiece_addSegments {raws : List (List Char)} {rest : List (List Char)}
    (hr : ∀ raw ∈ rest, raw ∈ raws) {earlier : List String} (h : ∀ s ∈ earlier, OfPiece raws s) :
    ∀ s ∈ addSegments .web earlier rest, OfPiece raws s := by
  induction rest generalizing earlier with
  | nil => exact h
  | cons raw rest ih =>
    have head := hr raw List.mem_cons_self
    cases rest with
    | nil => exact ofPiece_addSegment head h true
    | cons next rest =>
      exact ih (fun r hm => hr r (List.mem_cons_of_mem _ hm)) (ofPiece_addSegment head h false)

theorem segments_web (cs : List Char) :
    segments .web cs = (addSegments .web [] (cs.splitOnP (isSlash true))).reverse := rfl

theorem ofPiece_of_mem_segments {cs : List Char} {s : String} (h : s ∈ segments .web cs) :
    OfPiece (cs.splitOnP (isSlash true)) s := by
  rw [segments_web, List.mem_reverse] at h
  exact ofPiece_addSegments (fun _ hr => hr) (by simp) s h

theorem segments_of_pieces {cs : List Char}
    (h : ∀ raw ∈ cs.splitOnP (isSlash true), isDots (encode inPath raw) = false) :
    segments .web cs =
      (cs.splitOnP (isSlash true)).map fun raw => String.ofList (encode inPath raw) := by
  rw [segments_web, addSegments_of_not_dots h, List.append_nil, List.reverse_reverse]

theorem addSegment_ne_nil (earlier : List String) (raw : List Char) :
    addSegment .web true earlier raw ≠ [] := by
  unfold addSegment
  dsimp only
  split
  · simp
  · split
    · simp
    · simp

theorem segments_ne_nil (cs : List Char) : segments .web cs ≠ [] := by
  have last (rest : List (List Char)) (earlier : List String) (h : rest ≠ []) :
      addSegments .web earlier rest ≠ [] := by
    induction rest generalizing earlier with
    | nil => exact absurd rfl h
    | cons raw rest ih =>
      cases rest with
      | nil => exact addSegment_ne_nil earlier raw
      | cons next rest => exact ih _ (by simp)
  rw [segments_web, ne_eq, List.reverse_eq_nil_iff]
  exact last _ _ (List.splitOnP_ne_nil _ _)

structure Settled (s : String) : Prop where
  unreserved : ∀ c ∈ s.toList, inPath c = false
  unslashed : ∀ c ∈ s.toList, isSlash true c = false
  undotted : isDots s.toList = false

theorem Settled.encode_eq {s : String} (h : Settled s) : encode inPath s.toList = s.toList :=
  encode_of_unreserved h.unreserved

theorem settled_of_mem_segments {cs : List Char} {s : String} (h : s ∈ segments .web cs) :
    Settled s := by
  obtain rfl | ⟨raw, hr, hd, rfl⟩ := ofPiece_of_mem_segments h
  · exact ⟨by simp, by simp, by decide⟩
  · constructor <;> rw [String.toList_ofList]
    · exact fun c hc => unreserved_of_mem_encode sparing_inPath hc
    · intro c hc
      obtain ⟨hc, -⟩ | rfl | hx := mem_encode hc
      · exact (mem_splitOnP hr).1 c hc
      · rfl
      · exact not_isSlash_of_isHexDigit hx
    · exact hd

theorem splitOnP_intercalate {segs : List String} (h : segs ≠ []) (settled : ∀ s ∈ segs, Settled s) :
    (List.intercalate ['/'] (segs.map String.toList)).splitOnP (isSlash true) =
      segs.map String.toList := by
  induction segs with
  | nil => exact absurd rfl h
  | cons s segs ih =>
    have head := (settled s List.mem_cons_self).unslashed
    cases segs with
    | nil => simpa using List.splitOnP_eq_singleton head
    | cons t segs =>
      have tail := ih (by simp) fun r hr => settled r (List.mem_cons_of_mem _ hr)
      have joined : List.intercalate ['/'] ((s :: t :: segs).map String.toList) =
          s.toList ++ '/' :: List.intercalate ['/'] ((t :: segs).map String.toList) := by
        simp [List.intercalate_cons_cons]
      rw [joined, List.splitOnP_append_cons_of_forall_mem head '/' rfl, tail]
      rfl

theorem segments_intercalate {segs : List String} (h : segs ≠ [])
    (settled : ∀ s ∈ segs, Settled s) :
    segments .web (List.intercalate ['/'] (segs.map String.toList)) = segs := by
  have split := splitOnP_intercalate h settled
  have dots : ∀ raw ∈ segs.map String.toList, isDots (encode inPath raw) = false := by
    intro raw hr
    obtain ⟨s, hs, rfl⟩ := List.mem_map.mp hr
    rw [(settled s hs).encode_eq]
    exact (settled s hs).undotted
  rw [← split] at dots
  rw [segments_of_pieces dots, split, List.map_map]
  calc segs.map ((fun raw => String.ofList (encode inPath raw)) ∘ String.toList)
    _ = segs.map id := List.map_congr_left fun s hs => by
        rw [Function.comp_apply, (settled s hs).encode_eq, String.ofList_toList]
        rfl
    _ = segs := List.map_id segs

end ForumDigest.Url
