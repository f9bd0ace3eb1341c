import ForumDigest.Config.Validation
import ForumDigest.Proofs.Query.Location
import Mathlib.Data.Bool.AllAny
import Mathlib.Data.List.Flatten

namespace ForumDigest

open Text Url Url.Percent

/-- The URL names the subreddit of the query and its order, and nothing else. -/
structure Url.Addresses (u : Url) (q : Query) : Prop where
  path : ∃ segment : String, u.path = .rooted ["r", segment, q.sortBy.name ++ ".json"] ∧
    decode (Utf8.encode segment.toList) = Utf8.encode q.subreddit.toList
  query : u.query = if q.sortBy = .top then some ("t=" ++ q.topPeriod.name) else none
  fragment : u.fragment = none

/-- A name that stands in a path for itself. -/
structure IsSegment (name : List Char) : Prop where
  undelimited : ∀ c ∈ name, c ∉ ['/', '\\', '?', '#', '\t', '\n', '\r']
  unescaped : hasEscape name = false
  single : name ≠ ['.']
  double : name ≠ ['.', '.']

instance (name : List Char) : Decidable (IsSegment name) :=
  decidable_of_iff
    (name.all (fun c => c ∉ ['/', '\\', '?', '#', '\t', '\n', '\r']) = true ∧
      hasEscape name = false ∧ name ≠ ['.'] ∧ name ≠ ['.', '.'])
    ⟨fun ⟨h, escape, one, two⟩ => ⟨List.all_iff_forall_prop.mp h, escape, one, two⟩,
      fun h => ⟨List.all_iff_forall_prop.mpr h.undelimited, h.unescaped, h.single, h.double⟩⟩

namespace IsSegment

variable {name : List Char}

theorem not_mem (h : IsSegment name) {c : Char}
    (hc : c ∈ ['/', '\\', '?', '#', '\t', '\n', '\r']) : c ∉ name :=
  fun hn => h.undelimited c hn hc

theorem isKept (h : IsSegment name) : ∀ c ∈ name, isKept c = true := by
  intro c hc
  have := h.undelimited c hc
  simp only [List.mem_cons, List.not_mem_nil, or_false, not_or] at this
  simp [Url.isKept, this]

theorem unslashed (h : IsSegment name) : ∀ c ∈ name, isSlash true c = false := by
  intro c hc
  have := h.undelimited c hc
  simp only [List.mem_cons, List.not_mem_nil, or_false, not_or] at this
  simp [isSlash, this]

theorem not_isDots (h : IsSegment name) : isDots (encode inPath name) = false :=
  not_isDots_encode h.unescaped h.single h.double

theorem decode_eq (h : IsSegment name) : decode (Utf8.encode name) = Utf8.encode name :=
  decode_utf8_of_not_hasEscape h.unescaped

end IsSegment

theorem length_utf8_le {xs ys : List Char} (h : xs.Sublist ys) :
    (Utf8.encode xs).length ≤ (Utf8.encode ys).length :=
  (h.flatMap _).length_le

theorem eq_of_decode_piece {name piece : List Char} (sub : piece.Sublist name)
    (h : decode (Utf8.encode piece) = Utf8.encode name) :
    piece = name ∧ hasEscape piece = false := by
  have unescaped : hasEscape piece = false := by
    -- An escape would leave the piece with fewer bytes than the name has, once it is decoded.
    by_contra he
    have shorter := length_decode_utf8_lt (Bool.not_eq_false _ ▸ he)
    have longer := length_utf8_le sub
    rw [h] at shorter
    omega
  rw [decode_utf8_of_not_hasEscape unescaped] at h
  exact ⟨utf8_injective h, unescaped⟩

namespace Query

variable {q : Query}

def leaf (q : Query) : List Char := (q.sortBy.name ++ ".json").toList

theorem isSegment_leaf (q : Query) : IsSegment q.leaf := by
  unfold leaf
  cases q.sortBy <;> decide

theorem encode_leaf (q : Query) : encode inPath q.leaf = q.leaf := by
  unfold leaf
  cases q.sortBy <;> decide

theorem place_of_listing (h : q.search = none) :
    q.place = 'r' :: '/' :: (q.subreddit.toList ++ '/' :: q.leaf) := by
  simp only [place, h, leaf]

theorem filter_isKept_place (h : q.search = none) :
    q.place.filter isKept =
      'r' :: '/' :: (q.subreddit.toList.filter isKept) ++ '/' :: q.leaf := by
  have leaf := List.filter_eq_self.mpr q.isSegment_leaf.isKept
  rw [place_of_listing h]
  simp [leaf, show isKept 'r' = true by decide, show isKept '/' = true by decide]

theorem parts_of_undivided (h : ∀ c ∈ q.place.filter isKept, c ≠ '?' ∧ c ≠ '#') :
    q.parts = ⟨q.place.filter isKept, none, none⟩ :=
  cut_of_undivided h

theorem undivided_of_not_mem (h : q.search = none)
    (name : ∀ c ∈ q.subreddit.toList, c ≠ '?' ∧ c ≠ '#') :
    ∀ c ∈ q.place.filter isKept, c ≠ '?' ∧ c ≠ '#' := by
  intro c hc
  rw [filter_isKept_place h] at hc
  simp only [List.mem_append, List.mem_cons, List.mem_filter] at hc
  obtain (rfl | rfl | ⟨hc, -⟩) | rfl | hc := hc
  · decide
  · decide
  · exact name c hc
  · decide
  · refine ⟨?_, ?_⟩ <;> rintro rfl <;> exact q.isSegment_leaf.not_mem (by decide) hc

theorem splitOnP_place (h : q.search = none) :
    (q.place.filter isKept).splitOnP (isSlash true) =
      ['r'] :: ((q.subreddit.toList.filter isKept).splitOnP (isSlash true) ++ [q.leaf]) := by
  have first : ∀ c ∈ ['r'], isSlash true c = false := by simp [isSlash]
  have split := List.splitOnP_append_cons_of_forall_mem first '/' rfl
    (q.subreddit.toList.filter isKept ++ '/' :: q.leaf)
  have rest := @List.splitOnP_append_cons _ (isSlash true) (q.subreddit.toList.filter isKept) q.leaf
    '/' rfl
  rw [rest, List.splitOnP_eq_singleton q.isSegment_leaf.unslashed] at split
  rw [filter_isKept_place h]
  exact split

theorem pairs_of_listing (h : q.search = none) : q.pairs = q.periodPairs := by
  simp only [pairs, h, Option.map_none, Option.getD_none, List.nil_append]

theorem foldl_pairs_of_none (h : q.search = none) :
    q.pairs.foldl queryWith none =
      if q.sortBy = .top then some ("t=" ++ q.topPeriod.name) else none := by
  rw [pairs_of_listing h, periodPairs]
  split
  · cases q.topPeriod <;> decide
  · rfl

theorem mem_foldl_pairs (h : q.search = none) {own s : String} (hc : '/' ∈ own.toList)
    (hs : q.pairs.foldl queryWith (some own) = some s) : '/' ∈ s.toList := by
  rw [pairs_of_listing h, periodPairs] at hs
  split at hs
  · obtain rfl := Option.some.inj hs
    rw [String.toList_ofList]
    unfold Form.append
    split
    · rename_i empty
      exact absurd (List.isEmpty_iff.mp empty) (List.ne_nil_of_mem hc)
    · exact List.mem_append_left _ hc
  · obtain rfl := Option.some.inj hs
    exact hc

theorem not_mem_of_foldl_pairs (h : q.search = none) (unmarked : '#' ∉ q.place.filter isKept)
    (hq : q.pairs.foldl queryWith q.ownQuery =
      if q.sortBy = .top then some ("t=" ++ q.topPeriod.name) else none) :
    '?' ∉ q.subreddit.toList := by
  intro hm
  have inside : '?' ∈ 'r' :: '/' :: q.subreddit.toList.filter isKept := by
    simpa using List.mem_filter.mpr ⟨hm, by decide⟩
  rw [filter_isKept_place h] at unmarked
  obtain ⟨zs, hz⟩ := cut_query_of_mem inside unmarked
  have own : q.ownQuery =
      some (String.ofList (encode inSpecialQuery (zs ++ '/' :: q.leaf))) := by
    rw [ownQuery, parts, filter_isKept_place h, hz]
    rfl
  have slash : '/' ∈ (String.ofList (encode inSpecialQuery (zs ++ '/' :: q.leaf))).toList := by
    rw [String.toList_ofList, encode_append, encode_cons]
    simp [show inSpecialQuery '/' = false by decide]
  rw [own] at hq
  split at hq
  · have := mem_foldl_pairs h slash hq
    revert this
    cases q.topPeriod <;> decide
  · rename_i other
    rw [pairs_of_listing h, periodPairs, if_neg other] at hq
    cases hq

def placed (q : Query) (host : String) : Url :=
  web host (segments .web q.parts.head) (q.pairs.foldl queryWith q.ownQuery) q.ownFragment

theorem addresses_of_isSegment (h : q.search = none) (name : IsSegment q.subreddit.toList)
    (host : String) : (q.placed host).Addresses q := by
  have parts := parts_of_undivided <| undivided_of_not_mem h fun c hc =>
    ⟨fun he => name.not_mem (by decide) (he ▸ hc), fun he => name.not_mem (by decide) (he ▸ hc)⟩
  have pieces : (q.place.filter Url.isKept).splitOnP (isSlash true) =
      [['r'], q.subreddit.toList, q.leaf] := by
    rw [splitOnP_place h, List.filter_eq_self.mpr name.isKept,
      List.splitOnP_eq_singleton name.unslashed]
    rfl
  have undotted : ∀ raw ∈ (q.place.filter Url.isKept).splitOnP (isSlash true),
      isDots (encode inPath raw) = false := by
    rw [pieces]
    simp only [List.forall_mem_cons, List.not_mem_nil, false_implies, implies_true, and_true]
    exact ⟨by decide, name.not_isDots, q.isSegment_leaf.not_isDots⟩
  refine ⟨⟨String.ofList (encode inPath q.subreddit.toList), ?_, ?_⟩, ?_, ?_⟩
  · have first : String.ofList (encode inPath ['r']) = "r" := by decide
    have last : String.ofList (encode inPath q.leaf) = q.sortBy.name ++ ".json" := by
      rw [encode_leaf, leaf, String.ofList_toList]
    simp only [placed, web, parts, segments_of_pieces undotted, pieces, List.map_cons,
      List.map_nil, first, last]
  · rw [String.toList_ofList, decode_utf8_encode sparing_inPath, name.decode_eq]
  · simpa [placed, web, ownQuery, parts] using foldl_pairs_of_none h
  · simp [placed, web, ownFragment, parts]

theorem isSegment_of_addresses (h : q.search = none) {host : String}
    (named : (q.placed host).Addresses q) : IsSegment q.subreddit.toList := by
  obtain ⟨⟨segment, path, spelled⟩, query, fragment⟩ := named
  have unmarked : '#' ∉ q.place.filter isKept :=
    not_mem_of_cut_fragment (Option.map_eq_none_iff.mp fragment)
  have unasked : '?' ∉ q.subreddit.toList := not_mem_of_foldl_pairs h unmarked query
  have undivided : ∀ c ∈ q.subreddit.toList, c ≠ '?' ∧ c ≠ '#' := by
    refine fun c hc => ⟨fun he => unasked (he ▸ hc), ?_⟩
    rintro rfl
    refine unmarked (List.mem_filter.mpr ⟨?_, by decide⟩)
    simp [place_of_listing h, hc]
  -- A piece that stands for itself and is decoded to the name is the name.
  have whole {piece : List Char} (hp : IsSegment piece)
      (hd : decode (Utf8.encode piece) = Utf8.encode q.subreddit.toList) :
      IsSegment q.subreddit.toList :=
    utf8_injective (hp.decode_eq.symm.trans hd) ▸ hp
  have member : segment ∈ segments .web (q.place.filter isKept) := by
    have path : segments .web q.parts.head = ["r", segment, q.sortBy.name ++ ".json"] :=
      Path.rooted.inj path
    rw [parts_of_undivided (undivided_of_not_mem h undivided)] at path
    simp [path]
  obtain rfl | ⟨raw, hr, undotted, rfl⟩ := ofPiece_of_mem_segments member
  · exact whole (by decide) spelled
  rw [String.toList_ofList, decode_utf8_encode sparing_inPath] at spelled
  rw [splitOnP_place h, List.mem_cons, List.mem_append, List.mem_singleton] at hr
  obtain rfl | hr | rfl := hr
  · exact whole (by decide) spelled
  · obtain ⟨unslashed, piece⟩ := mem_splitOnP hr
    obtain ⟨rfl, unescaped⟩ := eq_of_decode_piece (piece.trans List.filter_sublist) spelled
    refine ⟨fun c hc => ?_, unescaped, ?_, ?_⟩
    · have slash := unslashed c hc
      have kept := (List.mem_filter.mp (piece.subset hc)).2
      simp only [isSlash, Bool.true_and, Bool.or_eq_false_iff, beq_eq_false_iff_ne] at slash
      simp only [isKept, Bool.not_eq_true', Bool.or_eq_false_iff, beq_eq_false_iff_ne] at kept
      simp [slash, kept, undivided c hc]
    · rintro he
      rw [he] at undotted
      revert undotted
      decide
    · rintro he
      rw [he] at undotted
      revert undotted
      decide
  · exact whole q.isSegment_leaf spelled

theorem requestUrl_placed {host : String} (hh : Plain host.toList)
    (h : q.requestUrlTemplate = none) :
    q.requestUrl (String.ofList (start host.toList)) = .ok (q.placed host).text := by
  unfold requestUrl
  rw [listingUrl_eq hh]
  simp only [h]
  rfl

end Query

namespace Subscription

theorem eq_of_accepted {s s' : Subscription} (h : s.accepted = .ok s') :
    s' = s.withName.withoutBlankTexts := by
  unfold accepted validate at h
  by_cases empty : normalizedName s.subreddit = ""
  · simp [empty] at h
  by_cases zero : s.limit = 0
  · simp [empty, zero] at h
  simp only [empty, zero, if_false] at h
  exact (Except.ok.inj h).symm

/-- Where a subscription without a search and a template is accepted, the URL it asks for addresses
its subreddit exactly if the normalized name stands for itself. -/
theorem addresses_iff {base : String} (usual : Endpoints.IsUsualBase base) {s s' : Subscription}
    (accepted : s.accepted = .ok s') (search : kept s.search = none)
    (template : kept s.requestUrlTemplate = none) :
    ∃ u : Url, s'.query.requestUrl base = .ok u.text ∧ Url.parse u.text = .ok u ∧
      (u.Addresses s'.query ↔ IsSegment s'.subreddit.toList) := by
  obtain ⟨host, hh, rfl⟩ := usual.host
  have normal := eq_of_accepted accepted
  have unsearched : s'.query.search = none := by
    simpa only [normal, query, withoutBlankTexts, withName] using search
  have untemplated : s'.query.requestUrlTemplate = none := by
    simpa only [normal, query, withoutBlankTexts, withName] using template
  refine ⟨s'.query.placed host, Query.requestUrl_placed hh untemplated,
    parse_text hh (Query.encoded_listingUrl _), ?_⟩
  exact ⟨Query.isSegment_of_addresses unsearched,
    fun name => Query.addresses_of_isSegment unsearched name host⟩

theorem addresses_iff_of_percent :
    accepted { subreddit := " r/50% b", sortBy := .top, topPeriod := .week, search := some " " } =
      .ok { subreddit := "50% b", sortBy := .top, topPeriod := .week } ∧
    ∃ u : Url, ({ subreddit := "50% b", sortBy := .top, topPeriod := .week } : Query).requestUrl
        "https://oauth.reddit.com" = .ok u.text ∧ Url.parse u.text = .ok u ∧
      u.Addresses { subreddit := "50% b", sortBy := .top, topPeriod := .week } := by
  have taken :
      accepted { subreddit := " r/50% b", sortBy := .top, topPeriod := .week, search := some " " } =
        .ok { subreddit := "50% b", sortBy := .top, topPeriod := .week } := by
    decide
  obtain ⟨u, asked, read, named⟩ := addresses_iff (.inr rfl) taken (by decide) (by decide)
  exact ⟨taken, u, asked, read, named.mpr (by decide)⟩

/-- What stands behind a `?` in a name is asked for as a query. -/
theorem not_addresses_of_question :
    accepted { subreddit := "a?b" } = .ok { subreddit := "a?b" } ∧
    ({ subreddit := "a?b" } : Query).requestUrl "https://reddit.com" =
      .ok "https://reddit.com/r/a?b/hot.json" ∧
    ∀ u, Url.parse "https://reddit.com/r/a?b/hot.json" = .ok u →
      ¬ u.Addresses { subreddit := "a?b" } := by
  refine ⟨by decide, by decide +kernel, fun u hu named => ?_⟩
  have read : (Url.parse "https://reddit.com/r/a?b/hot.json").map Url.query =
      .ok (some "b/hot.json") := by
    decide +kernel
  rw [hu] at read
  cases (Except.ok.inj read).symm.trans named.query

end Subscription

end ForumDigest
