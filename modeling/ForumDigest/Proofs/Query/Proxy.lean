import ForumDigest.Proofs.Query.Host
import ForumDigest.Proofs.Query.Search
import ForumDigest.Proofs.Query.Subreddit
import ForumDigest.Proofs.Text.Substitution
import ForumDigest.Proofs.Url.Query

namespace ForumDigest

open Text Url Url.Percent

namespace Query

/-- Listings are asked for with the URL `u` as the only pair of the query. -/
structure Routes (q : Query) (base u : String) : Prop where
  target : ∃ url, q.target base = .ok url ∧ url.pairs? = some [("url", u)]
  fetched : ∀ (c : Client) (k : Option Credential), (c.access k).1 = base →
    (∀ e, (c.fetch q k).1 ≠ .error (.url e)) ∧
      ∀ r ∈ Client.sentSince c (c.fetch q k).2.2, r.method = .get →
        r.url.pairs? = some [("url", u)]

def direct (q : Query) : Query := { q with requestUrlTemplate := none }

/-- A name whose characters are written into a path, and read in a form, as they are. -/
def IsCopied (name : List Char) : Prop := ∀ c ∈ name, inPath c = false ∧ c ∉ ['&', '+', '%']

instance (name : List Char) : Decidable (IsCopied name) :=
  decidable_of_iff (name.all (fun c => inPath c = false ∧ c ∉ ['&', '+', '%']) = true)
    List.all_iff_forall_prop

/-- What becomes of a listing with the URL `u` that a proxy at `p` is asked for. -/
structure Proxied (q : Query) (base p u : String) : Prop where
  built : q.direct.requestUrl base = .ok u
  routes : q.Routes base u ↔ Leads (Template.fillRequest p u) ∧ Form.Bare u.toList
  leads : ¬ Template.requestUrlMark.toList <:+: p.toList →
    (∀ c ∈ p.toList.getLast?, 0x20 < c.toNat) → Leads (Template.fillRequest p u)
  searched : q.search ≠ none → ¬ q.Routes base u
  listed : q.search = none → IsCopied q.subreddit.toList → Form.Bare u.toList

end Query

theorem Http.pairs?_sentUrl (url : Url) : (sentUrl url).pairs? = url.pairs? := by
  unfold sentUrl
  split <;> rfl

namespace Template

theorem isMark_requestUrlMark : IsMark requestUrlMark.toList :=
  ⟨"REQUEST-URL".toList, by decide⟩

def routed (u : String) : List Char := "url".toList ++ '=' :: u.toList

variable {p u : String}

theorem toList_fillRequest_proxy (p u : String) :
    (fillRequest (p ++ "?url=" ++ requestUrlMark) u).toList =
      (fillRequest p u).toList ++ '?' :: routed u := by
  have spelled : (p ++ "?url=" ++ requestUrlMark).toList =
      p.toList ++ '?' :: ("url".toList ++ '=' :: requestUrlMark.toList) := by simp
  have nonempty : ∀ rule ∈ [(⟨requestUrlMark.toList, u.toList⟩ : Rule)], rule.pattern ≠ [] := by
    simpa using isMark_requestUrlMark.ne_nil
  have apart {c : Char} (h : c ∉ requestUrlMark.toList) :
      ∀ rule ∈ [(⟨requestUrlMark.toList, u.toList⟩ : Rule)], c ∉ rule.pattern := by simpa using h
  have name : fillAll [⟨requestUrlMark.toList, u.toList⟩] "url".toList = "url".toList := by rfl
  have mark : fillAll [⟨requestUrlMark.toList, u.toList⟩] requestUrlMark.toList = u.toList := by
    have filled := fillAll_of_found ⟨requestUrlMark.toList, u.toList⟩ isMark_requestUrlMark.ne_nil
      (first?_single requestUrlMark.toList u.toList [])
    simpa [show fillAll [(⟨requestUrlMark.toList, u.toList⟩ : Rule)] [] = [] from rfl] using filled
  simp only [fillRequest, replaced, String.toList_ofList, substitute_eq]
  rw [spelled, fillAll_append_cons nonempty (apart (by decide)),
    fillAll_append_cons nonempty (apart (by decide)), name, mark]
  rfl

theorem fills_fillRequest (p u : String) :
    Fills [⟨requestUrlMark.toList, u.toList⟩] p.toList (fillRequest p u).toList := by
  rw [fillRequest, replaced, String.toList_ofList]
  exact fills_substitute isMark_requestUrlMark.ne_nil _ _

theorem exists_front_of_fills {rule : Rule} {cs out : List Char} (fills : Fills [rule] cs out)
    (h : Undivided cs) :
    Undivided out ∨ ∃ front back, Undivided front ∧ out = front ++ (rule.value ++ back) := by
  induction fills with
  | nil => exact .inl undivided_nil
  | put found _ ih =>
    obtain rfl := List.mem_singleton.mp (List.mem_of_find?_eq_some found)
    exact .inr ⟨[], _, undivided_nil, rfl⟩
  | copy _ _ ih =>
    obtain ⟨first, rest⟩ := undivided_cons.mp h
    obtain out | ⟨front, back, apart, rfl⟩ := ih rest
    · exact .inl (undivided_cons.mpr ⟨first, out⟩)
    · exact .inr ⟨_ :: front, back, undivided_cons.mpr ⟨first, apart⟩, rfl⟩

theorem visible_routed (h : ∀ c ∈ u.toList, IsGraphic c) : ∀ c ∈ routed u, 0x20 < c.toNat := by
  have name : ∀ c ∈ "url=".toList, 0x20 < c.toNat := List.all_iff_forall_prop.mp (by decide)
  intro c hc
  obtain hc | hc : c ∈ "url=".toList ∨ c ∈ u.toList := by simpa [routed, or_assoc] using hc
  · exact name c hc
  · exact (h c hc).1

theorem decode_routed_iff (h : ∀ c ∈ u.toList, IsGraphic c) :
    Form.decode ((routed u).takeWhile (· ≠ '#')) = [("url", u)] ↔ Form.Bare u.toList := by
  have ascii : ∀ c ∈ u.toList, c.toNat < 128 := fun c hc => (h c hc).2.trans (by decide)
  have bare := @Form.decode_bare_iff "url".toList _ (by decide) (by decide) ascii
  rwa [String.ofList_toList] at bare

theorem pairs_iff_of_undivided {lead : List Char} (undivided : Undivided lead)
    (h : ∀ c ∈ u.toList, IsGraphic c) :
    (cut (cleaned (lead ++ '?' :: routed u))).query.map Form.decode = some [("url", u)] ↔
      Form.Bare u.toList := by
  rw [query_cut_cleaned undivided, cleanedBack_of_visible (visible_routed h), Option.map_some,
    Option.some.injEq, decode_routed_iff h]

/-- Where the value stands in front as well, the query begins inside it, and the value is not read
back: a number sign in it ends the query, and else it stands behind the rest of itself. -/
theorem decode_ne_of_inside (h : ∀ c ∈ u.toList, IsGraphic c) {xs ys back : List Char}
    (hu : u.toList = xs ++ '?' :: ys) (before : '#' ∉ xs) (unended : '#' ∉ u.toList → '#' ∉ back) :
    Form.decode ((cleanedBack (ys ++ (back ++ '?' :: routed u))).takeWhile (· ≠ '#')) ≠
      [("url", u)] := by
  have visible : ∀ c ∈ ys, 0x20 < c.toNat := fun c hc => (h c (by simp [hu, hc])).1
  have read : cleanedBack (ys ++ (back ++ '?' :: routed u)) =
      ys ++ (back.filter isKept ++ '?' :: routed u) := by
    rw [← List.append_assoc, cleanedBack_append_cons (by decide), List.filter_append,
      filter_isKept_of_visible visible, cleanedBack_of_visible (visible_routed h),
      List.append_assoc]
  rw [read]
  intro same
  by_cases ended : '#' ∈ u.toList
  · have inside : '#' ∈ ys := by simpa [hu, before] using ended
    obtain ⟨zs, ws, rfl, hz⟩ := List.eq_append_cons_of_mem inside
    rw [List.append_assoc, List.cons_append, Form.takeWhile_append_of_not_mem hz] at same
    have ascii : ∀ c ∈ zs, c.toNat < 128 := fun c hc =>
      (h c (by simp [hu, hc])).2.trans (by decide)
    have shorter : u.toList.length ≤ zs.length :=
      @Form.length_le_of_mem_decode _ ascii ("url", u) (same ▸ List.mem_cons_self)
    simp only [hu, List.length_append, List.length_cons] at shorter
    omega
  · have outside : '#' ∉ ys ++ (back.filter isKept ++ '?' :: routed u) := by
      have value : '#' ∉ ys := fun hm => ended (by simp [hu, hm])
      simp [routed, value, unended ended, ended]
    have behind := @Form.decode_behind_ne "url".toList (by decide) (by decide)
      (ys ++ back.filter isKept) u.toList
    rw [String.ofList_toList, List.append_assoc] at behind
    rw [Form.takeWhile_of_not_mem outside] at same
    exact behind same

/-- Where the template in front of the question mark holds the value already, a mark in it divides
the text there. -/
theorem pairs_ne_of_divided (undivided : Undivided p.toList) (h : ∀ c ∈ u.toList, IsGraphic c)
    (divided : ¬ Undivided (fillRequest p u).toList) :
    (cut (cleaned ((fillRequest p u).toList ++ '?' :: routed u))).query.map Form.decode ≠
      some [("url", u)] := by
  obtain undivided' | ⟨front, back, apart, hout⟩ :=
    exists_front_of_fills (fills_fillRequest p u) undivided
  · exact absurd undivided' divided
  have origin {c : Char} (hc : c ∈ (fillRequest p u).toList) : c ∈ p.toList ∨ c ∈ u.toList := by
    simpa using (fills_fillRequest p u).mem hc
  obtain ⟨xs, m, ys, hu, before, mark⟩ : ∃ xs m ys, u.toList = xs ++ m :: ys ∧ Undivided xs ∧
      (m = '?' ∨ m = '#') := by
    refine exists_of_divided fun whole => divided fun c hc => ?_
    exact (origin hc).elim (undivided c) (whole c)
  have ahead : Undivided (front ++ xs) := undivided_append.mpr ⟨apart, before⟩
  have spelled : (fillRequest p u).toList ++ '?' :: routed u =
      (front ++ xs) ++ m :: (ys ++ (back ++ '?' :: routed u)) := by
    simp [hout, hu]
  rw [spelled]
  obtain rfl | rfl := mark
  · rw [query_cut_cleaned ahead, Option.map_some, ne_eq, Option.some.injEq]
    refine decode_ne_of_inside h hu (fun hm => (before _ hm).2 rfl) fun unended hm => ?_
    have inside : '#' ∈ (fillRequest p u).toList := by simp [hout, hm]
    exact (origin inside).elim (fun hp => (undivided _ hp).2 rfl) unended
  · rw [cleaned_append_cons (by decide), cut_append ahead.cleanedFront]
    simp [cut]

end Template

namespace Query

variable {q : Query} {base p u : String}

def behind (q : Query) : List Char :=
  Url.tail (segments .web q.parts.head) (q.pairs.foldl queryWith q.ownQuery) q.ownFragment

theorem exists_requestUrl (usual : Endpoints.IsUsualBase base) (h : q.requestUrlTemplate = none) :
    ∃ u, q.requestUrl base = .ok u ∧ u.toList = base.toList ++ '/' :: q.behind := by
  obtain ⟨host, hh, rfl⟩ := usual.host
  refine ⟨_, requestUrl_placed hh h, ?_⟩
  rw [placed, text_web q.encoded_listingUrl.nonempty, String.toList_ofList, String.toList_ofList]
  rfl

theorem isGraphic_of_usual (usual : Endpoints.IsUsualBase base) :
    ∀ c ∈ base.toList, IsGraphic c := by
  obtain rfl | rfl := usual <;> exact List.all_iff_forall_prop.mp (by decide)

theorem not_mem_base (usual : Endpoints.IsUsualBase base) :
    ∀ c ∈ base.toList, c ∉ ['&', '#', '+', '%'] := by
  obtain rfl | rfl := usual <;> exact List.all_iff_forall_prop.mp (by decide)

theorem isCopied_place (h : q.search = none) (name : IsCopied q.subreddit.toList) :
    IsCopied q.place := by
  have leaf : IsCopied q.leaf := by
    unfold leaf
    cases q.sortBy <;> decide
  rw [place_of_listing h]
  intro c hc
  simp only [List.mem_cons, List.mem_append] at hc
  obtain rfl | rfl | hc | rfl | hc := hc
  · decide
  · decide
  · exact name c hc
  · decide
  · exact leaf c hc

/-- The URL of a listing whose name is copied holds nothing that a form reads as something else. -/
theorem not_mem_behind_of_listing (h : q.search = none) (name : IsCopied q.subreddit.toList)
    {c : Char} (hc : c ∈ q.behind) : c ∉ ['&', '#', '+', '%'] := by
  have place := isCopied_place h name
  have undivided : ∀ d ∈ q.place.filter isKept, d ≠ '?' ∧ d ≠ '#' := fun d hd =>
    undivided_of_inPath (place d (List.mem_filter.mp hd).1).1
  have parts := parts_of_undivided undivided
  have own : q.ownQuery = none := by
    rw [ownQuery, parts]
    rfl
  rw [behind, own, foldl_pairs_of_none h, ownFragment, parts] at hc
  obtain rfl | rfl | ⟨s, hs, hc⟩ | ⟨s, hs, hc⟩ | ⟨_, ⟨⟩, -⟩ := mem_tail (segments_ne_nil _) hc
  · decide
  · decide
  · obtain rfl | ⟨raw, hr, -, rfl⟩ := ofPiece_of_mem_segments hs
    · cases hc
    · have inside {d : Char} (hd : d ∈ raw) := (mem_splitOnP hr).2.subset hd
      have copied {d : Char} (hd : d ∈ raw) := place d (List.mem_filter.mp (inside hd)).1
      rw [String.toList_ofList, encode_of_unreserved fun d hd => (copied hd).1] at hc
      have number := (undivided c (inside hc)).2
      simpa [number] using (copied hc).2
  · have period (t : TopPeriod) : ∀ c ∈ ("t=" ++ t.name).toList, c ∉ ['&', '#', '+', '%'] := by
      cases t <;> exact List.all_iff_forall_prop.mp (by decide)
    split at hs
    · cases hs
      exact period _ c hc
    · cases hs

theorem ampersand_mem_behind_of_search {search : String} (h : q.search = some search) :
    '&' ∈ q.behind := by
  have own : q.ownQuery = none := by
    rw [ownQuery, parts, place, h]
    rfl
  have two : '&' ∈ Form.encode q.pairs := by
    simp [pairs_of_search h, searchPairs, Form.encode, List.intercalate_cons_cons]
  have full : q.pairs ≠ [] := by simp [pairs_of_search h, searchPairs]
  rw [behind, own, foldl_queryWith_none full, Url.tail]
  simp [two]

theorem requestUrl_of_template {template : String} (h : q.requestUrlTemplate = some template)
    (built : q.direct.requestUrl base = .ok u) :
    q.requestUrl base = .ok (Template.fillRequest template u) := by
  have same : q.direct.listingUrl base = q.listingUrl base := rfl
  unfold requestUrl at built ⊢
  rw [same] at built
  obtain ⟨url, listed, built⟩ := exists_of_bind_ok built
  rw [listed, h]
  cases built
  rfl

theorem target_of_requestUrl {text : String} (h : q.requestUrl base = .ok text) :
    q.target base = Url.parse text := by
  rw [Query.target, h]
  rfl

theorem routes_of_target {url : Url} (ht : q.target base = .ok url)
    (pairs : url.pairs? = some [("url", u)]) : q.Routes base u := by
  refine ⟨⟨url, ht, pairs⟩, ?_⟩
  rintro c k rfl
  constructor
  · intro e failed
    cases ht.symm.trans (Client.target_of_fetch failed)
  · intro r sent get
    obtain ⟨headers, reads⟩ := Client.reads_of_fetch sent get
    obtain ⟨url', ht', hu, -⟩ := reads.located
    obtain rfl := Except.ok.inj (ht.symm.trans ht')
    rw [hu, Http.pairs?_sentUrl, pairs]

theorem routes_iff (h : q.requestUrlTemplate = some (p ++ "?url=" ++ Template.requestUrlMark))
    (undivided : Undivided p.toList) (built : q.direct.requestUrl base = .ok u)
    (graphic : ∀ c ∈ u.toList, IsGraphic c) :
    q.Routes base u ↔ Leads (Template.fillRequest p u) ∧ Form.Bare u.toList := by
  have target : q.target base =
      Url.parse (Template.fillRequest (p ++ "?url=" ++ Template.requestUrlMark) u) :=
    target_of_requestUrl (requestUrl_of_template h built)
  have spelled := Template.toList_fillRequest_proxy p u
  have joined : Template.fillRequest (p ++ "?url=" ++ Template.requestUrlMark) u =
      Template.fillRequest p u ++ "?" ++ String.ofList (Template.routed u) := by
    apply String.toList_injective
    simp [spelled]
  constructor
  · rintro ⟨⟨url, parsed, pairs⟩, -⟩
    rw [target] at parsed
    rw [pairs?_of_parse parsed, spelled] at pairs
    have lead : Undivided (Template.fillRequest p u).toList := by
      by_contra divided
      exact Template.pairs_ne_of_divided undivided graphic divided pairs
    rw [Template.pairs_iff_of_undivided lead graphic] at pairs
    rw [joined] at parsed
    exact ⟨(leads_iff lead _).mpr ⟨url, parsed⟩, pairs⟩
  · rintro ⟨leads, bare⟩
    obtain ⟨url, parsed⟩ := (leads_iff leads.undivided (String.ofList (Template.routed u))).mp leads
    rw [← joined] at parsed
    refine routes_of_target (target.trans parsed) ?_
    rw [pairs?_of_parse parsed, spelled, Template.pairs_iff_of_undivided leads.undivided graphic]
    exact bare

/-- The URL of a listing is put into that of a proxy as it is. The proxy reads it back only if
nothing in it means something else in a form: never for a search, and else if the name is copied. -/
theorem proxied_of_template {b : Url} (usual : Endpoints.IsUsualBase base)
    (template : q.requestUrlTemplate = some (p ++ "?url=" ++ Template.requestUrlMark))
    (parsed : Url.parse p = .ok b) (unqueried : b.query = none) (unmarked : b.fragment = none) :
    ∃ u, q.Proxied base p u := by
  obtain ⟨u, built, spelled⟩ := exists_requestUrl (q := q.direct) usual rfl
  have graphic : ∀ c ∈ u.toList, IsGraphic c := by
    intro c hc
    rw [spelled, List.mem_append, List.mem_cons] at hc
    obtain hc | rfl | hc := hc
    · exact isGraphic_of_usual usual c hc
    · decide
    · exact q.direct.encoded_listingUrl.graphic c hc
  have undivided := undivided_of_parse parsed unqueried unmarked
  have routes := routes_iff template undivided built graphic
  refine ⟨u, built, routes, ?_, ?_, ?_⟩
  · intro outside last
    have copied : Template.fillRequest p u = p := by
      rw [Template.fillRequest, replaced, substitute_of_not_infix outside, String.ofList_toList]
    rw [copied]
    exact leads_of_parse parsed unqueried unmarked last
  · intro some routed
    obtain ⟨search, searched⟩ := Option.ne_none_iff_exists'.mp some
    have inside := ampersand_mem_behind_of_search (q := q.direct) searched
    exact (routes.mp routed).2.undivided (by simp [spelled, inside])
  · intro unsearched name
    refine Form.bare_of_not_mem fun c hc => ?_
    rw [spelled, List.mem_append, List.mem_cons] at hc
    obtain hc | rfl | hc := hc
    · exact not_mem_base usual c hc
    · decide
    · exact not_mem_behind_of_listing (q := q.direct) unsearched name hc

def sampleProxying : Query where
  subreddit := "lean4"
  sortBy := .top
  topPeriod := .week
  requestUrlTemplate := some "HTTPS://me:word@[::1]:8443/a b?url=\x7bREQUEST-URL\x7d"

theorem proxied_of_template_of_proxying :
    Endpoints.IsUsualBase "https://oauth.reddit.com" ∧
      sampleProxying.requestUrlTemplate =
        some ("HTTPS://me:word@[::1]:8443/a b" ++ "?url=" ++ Template.requestUrlMark) ∧
      (∃ b, Url.parse "HTTPS://me:word@[::1]:8443/a b" = .ok b ∧ b.query = none ∧
        b.fragment = none) ∧
      sampleProxying.direct.requestUrl "https://oauth.reddit.com" =
        .ok "https://oauth.reddit.com/r/lean4/top.json?t=week" ∧
      sampleProxying.Routes "https://oauth.reddit.com"
        "https://oauth.reddit.com/r/lean4/top.json?t=week" := by
  have usual : Endpoints.IsUsualBase "https://oauth.reddit.com" := .inr rfl
  have template : sampleProxying.requestUrlTemplate =
      some ("HTTPS://me:word@[::1]:8443/a b" ++ "?url=" ++ Template.requestUrlMark) := by
    decide
  have parsed : Url.parse "HTTPS://me:word@[::1]:8443/a b" = .ok
      { scheme := "https"
        authority := some ⟨"me", some "word", .ipv6 [0, 0, 0, 0, 0, 0, 0, 1], some 8443⟩
        path := .rooted ["a%20b"]
        query := none
        fragment := none } := by
    decide +kernel
  have built : sampleProxying.direct.requestUrl "https://oauth.reddit.com" =
      .ok "https://oauth.reddit.com/r/lean4/top.json?t=week" := by
    decide +kernel
  obtain ⟨u, proxied⟩ := proxied_of_template usual template parsed rfl rfl
  obtain rfl := Except.ok.inj (proxied.built.symm.trans built)
  have last : ∀ c ∈ "HTTPS://me:word@[::1]:8443/a b".toList.getLast?, 0x20 < c.toNat := by
    rintro _ ⟨⟩
    decide
  have leads := proxied.leads (by decide) last
  exact ⟨usual, template, ⟨_, parsed, rfl, rfl⟩, built,
    proxied.routes.mpr ⟨leads, proxied.listed rfl (by decide)⟩⟩

def sampleSearching : Query where
  subreddit := "lean"
  search := some "rust"
  requestUrlTemplate := some "http://proxy.test/?url=\x7bREQUEST-URL\x7d"

/-- The proxy reads a URL with its order and plus sign lost. -/
theorem not_routes_of_searching :
    (∃ b, Url.parse "http://proxy.test/" = .ok b ∧ b.scheme = "http" ∧ b.query = none ∧
      b.fragment = none) ∧
    sampleSearching.requestUrlTemplate =
      some ("http://proxy.test/" ++ "?url=" ++ Template.requestUrlMark) ∧
    sampleSearching.direct.requestUrl "https://reddit.com" =
      .ok "https://reddit.com/search.json?q=rust+subreddit%3Alean&sort=hot" ∧
    (∃ r ∈ Client.sentSince sampleClosing (sampleClosing.fetch sampleSearching none).2.2,
      r.method = .get ∧ r.url.pairs? = some
        [("url", "https://reddit.com/search.json?q=rust subreddit:lean"), ("sort", "hot")]) ∧
    ¬ sampleSearching.Routes "https://reddit.com"
      "https://reddit.com/search.json?q=rust+subreddit%3Alean&sort=hot" := by
  have read : (sampleSearching.target "https://reddit.com").map Url.pairs? = .ok (some
      [("url", "https://reddit.com/search.json?q=rust subreddit:lean"), ("sort", "hot")]) := by
    decide +kernel
  refine ⟨⟨⟨"http", some ⟨"", none, .domain "proxy.test", none⟩, .rooted [""], none, none⟩, ?_⟩,
    by decide, by decide +kernel, by decide +kernel, ?_⟩
  · exact ⟨by decide +kernel, rfl, rfl, rfl⟩
  · rintro ⟨⟨url, ht, pairs⟩, -⟩
    rw [ht] at read
    have two := (Except.ok.inj read).symm.trans pairs
    exact absurd two (by decide)

end Query

end ForumDigest
