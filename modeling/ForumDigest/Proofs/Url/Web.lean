import ForumDigest.Proofs.Url.Path
import ForumDigest.Url.Printer

namespace ForumDigest.Url

open Text Percent

def web (host : String) (segments : List String) (query fragment : Option String) : Url where
  scheme := "https"
  authority := some ⟨"", none, .domain host, none⟩
  path := .rooted segments
  query
  fragment

structure Plain (host : List Char) : Prop where
  unended : ∀ c ∈ host, endsAuthority true c = false
  visible : ∀ c ∈ host, 0x20 < c.toNat
  parsed : parseAuthority "https" true host = .ok ⟨"", none, .domain (String.ofList host), none⟩

def isKept (c : Char) : Bool := !(c == '\t' || c == '\n' || c == '\r')

def start (host : List Char) : List Char := 'h' :: 't' :: 't' :: 'p' :: 's' :: ':' :: '/' :: '/' :: host

theorem isKept_of_visible {c : Char} (h : 0x20 < c.toNat) : isKept c = true := by
  have apart (d : Char) (hd : d.toNat ≤ 0x20) : c ≠ d := by
    rintro rfl
    omega
  simp [isKept, apart '\t' (by decide), apart '\n' (by decide), apart '\r' (by decide)]

theorem filter_isKept_of_visible {cs : List Char} (h : ∀ c ∈ cs, 0x20 < c.toNat) :
    cs.filter isKept = cs :=
  List.filter_eq_self.mpr fun c hc => isKept_of_visible (h c hc)

theorem cleaned_eq {cs : List Char} (first : ∀ c ∈ cs.head?, isTrimmed c = false)
    (last : ∀ c ∈ cs.getLast?, isTrimmed c = false) : cleaned cs = cs.filter isKept := by
  have front : cs.dropWhile isTrimmed = cs := by
    cases cs with
    | nil => rfl
    | cons c cs => rw [List.dropWhile_cons, first c rfl, if_neg Bool.false_ne_true]
  have back : (cs.reverse.dropWhile isTrimmed).reverse = cs := by
    rcases hr : cs.reverse with _ | ⟨c, rest⟩
    · simpa using hr.symm
    · have hc : isTrimmed c = false := by
        refine last c ?_
        rw [← List.head?_reverse, hr]
        rfl
      rw [List.dropWhile_cons, hc, if_neg Bool.false_ne_true, ← hr, List.reverse_reverse]
  unfold cleaned
  dsimp only
  rw [front, back]
  rfl

theorem scheme?_https (cs : List Char) :
    scheme? ('h' :: 't' :: 't' :: 'p' :: 's' :: ':' :: cs) = some ("https".toList, cs) := by
  rfl

theorem cut_append {xs : List Char} (h : ∀ c ∈ xs, c ≠ '?' ∧ c ≠ '#') (ys : List Char) :
    cut (xs ++ ys) = ⟨xs ++ (cut ys).head, (cut ys).query, (cut ys).fragment⟩ := by
  have hash : ∀ c ∈ xs, decide (c ≠ '#') = true := fun c hc => decide_eq_true (h c hc).2
  have question : ∀ c ∈ xs, decide (c ≠ '?') = true := fun c hc => decide_eq_true (h c hc).1
  simp only [cut, List.takeWhile_append_of_pos hash, List.dropWhile_append_of_pos hash,
    List.takeWhile_append_of_pos question, List.dropWhile_append_of_pos question]

theorem cut_of_undivided {cs : List Char} (h : ∀ c ∈ cs, c ≠ '?' ∧ c ≠ '#') :
    cut cs = ⟨cs, none, none⟩ := by
  simpa [cut] using cut_append h []

theorem not_mem_of_cut_fragment {cs : List Char} (h : (cut cs).fragment = none) : '#' ∉ cs := by
  intro hm
  obtain ⟨xs, ys, rfl, hx⟩ := List.eq_append_cons_of_mem hm
  have before : ∀ c ∈ xs, decide (c ≠ '#') = true := fun c hc =>
    decide_eq_true fun he => hx (he ▸ hc)
  simp only [cut, List.dropWhile_append_of_pos before] at h
  cases h

theorem cut_query_of_mem {xs ys : List Char} (hx : '?' ∈ xs) (h : '#' ∉ xs ++ ys) :
    ∃ zs, (cut (xs ++ ys)).query = some (zs ++ ys) := by
  obtain ⟨ws, zs, rfl, hw⟩ := List.eq_append_cons_of_mem hx
  simp only [List.mem_append, List.mem_cons, not_or] at h
  have before : ∀ c ∈ ws, c ≠ '?' ∧ c ≠ '#' := fun c hc =>
    ⟨fun he => hw (he ▸ hc), fun he => h.1.1 (he ▸ hc)⟩
  have whole : (zs ++ ys ++ []).takeWhile (fun c => !decide (c = '#')) = zs ++ ys ++ [] :=
    List.takeWhile_append_of_pos fun c hc => by
      have : c ≠ '#' := by
        rintro rfl
        obtain hc | hc := List.mem_append.mp hc
        · exact h.1.2.2 hc
        · exact h.2 hc
      simp [this]
  refine ⟨zs, ?_⟩
  rw [List.append_nil] at whole
  rw [List.append_assoc, cut_append before]
  simp [cut, whole]

theorem hierarchy_https {host : List Char} (hh : Plain host) (cs : List Char) :
    hierarchy "https" ('/' :: '/' :: host ++ '/' :: cs) =
      .ok (some ⟨"", none, .domain (String.ofList host), none⟩, .rooted (segments .web cs)) := by
  have kind : schemeKind "https" = .web := by decide
  have inside : ∀ c ∈ host, (!endsAuthority true c) = true := fun c hc => by simp [hh.unended c hc]
  have slashes : ('/' :: '/' :: host ++ '/' :: cs).dropWhile (isSlash true) = host ++ '/' :: cs := by
    obtain _ | ⟨c, host⟩ := host
    · cases hh.parsed
    · have hc : isSlash true c = false := by
        have := hh.unended c List.mem_cons_self
        simp only [endsAuthority, Bool.or_eq_false_iff] at this
        exact this.1.1
      have two : ∀ d ∈ ['/', '/'], isSlash true d = true := by simp [isSlash]
      change List.dropWhile _ (['/', '/'] ++ (c :: (host ++ '/' :: cs))) = _
      rw [List.dropWhile_append_of_pos two, List.dropWhile_cons, hc, if_neg Bool.false_ne_true]
      rfl
  have front : (host ++ '/' :: cs).takeWhile (!endsAuthority true ·) = host := by
    rw [List.takeWhile_append_of_pos inside]
    simp [endsAuthority, isSlash]
  have back : (host ++ '/' :: cs).dropWhile (!endsAuthority true ·) = '/' :: cs := by
    rw [List.dropWhile_append_of_pos inside]
    simp [endsAuthority, isSlash]
  unfold hierarchy
  simp only [kind, SchemeKind.isSpecial, slashes, front, back, hh.parsed]
  rfl

theorem cleaned_start {host cs : List Char} (hh : Plain host)
    (last : ∀ c ∈ cs.getLast?, isTrimmed c = false) :
    cleaned (start host ++ '/' :: cs) = start host ++ '/' :: cs.filter isKept := by
  have visible : ∀ c ∈ start host ++ ['/'], 0x20 < c.toNat := by
    intro c hc
    simp only [start, List.cons_append, List.mem_cons, List.mem_append, List.not_mem_nil,
      or_false] at hc
    rcases hc with rfl | rfl | rfl | rfl | rfl | rfl | rfl | rfl | hc | rfl
    all_goals first | decide | exact hh.visible c hc
  rw [cleaned_eq, List.append_cons, List.filter_append, filter_isKept_of_visible visible,
    ← List.append_cons]
  · simp [start, isTrimmed]
  · intro c hc
    rw [List.getLast?_append] at hc
    cases hl : cs.getLast? with
    | none =>
      rw [List.getLast?_eq_none_iff.mp hl] at hc
      obtain rfl : '/' = c := by simpa using hc
      decide
    | some d =>
      obtain rfl : d = c := by simpa [List.getLast?_cons, hl] using hc
      exact last d hl

theorem undivided_host {host : List Char} (hh : Plain host) :
    ∀ c ∈ '/' :: '/' :: host ++ ['/'], c ≠ '?' ∧ c ≠ '#' := by
  intro c hc
  simp only [List.cons_append, List.mem_cons, List.mem_append, List.not_mem_nil, or_false] at hc
  rcases hc with rfl | rfl | hc | rfl
  · decide
  · decide
  · have := hh.unended c hc
    simp only [endsAuthority, Bool.or_eq_false_iff, beq_eq_false_iff_ne] at this
    exact ⟨this.1.2, this.2⟩
  · decide

theorem parse_web {host : List Char} (hh : Plain host) {cs : List Char}
    (last : ∀ c ∈ cs.getLast?, isTrimmed c = false) :
    parse (String.ofList (start host ++ '/' :: cs)) =
      .ok (web (String.ofList host) (segments .web (cut (cs.filter isKept)).head)
        ((cut (cs.filter isKept)).query.map fun q => String.ofList (encode inSpecialQuery q))
        ((cut (cs.filter isKept)).fragment.map fun f => String.ofList (encode inFragment f))) := by
  have parts := cut_append (undivided_host hh) (cs.filter isKept)
  rw [List.append_assoc, List.singleton_append] at parts
  unfold parse
  rw [String.toList_ofList, cleaned_start hh last]
  simp only [start, List.cons_append, scheme?_https]
  simp only [List.cons_append] at parts
  rw [parts]
  have located := hierarchy_https hh (cut (cs.filter isKept)).head
  simp only [List.cons_append, List.append_assoc, List.nil_append] at located ⊢
  rw [String.ofList_toList, located]
  rfl

def tail (segments : List String) (query fragment : Option String) : List Char :=
  List.intercalate ['/'] (segments.map String.toList) ++
    (query.elim [] ('?' :: ·.toList) ++ fragment.elim [] ('#' :: ·.toList))

theorem slash_intercalate {segments : List String} (h : segments ≠ []) :
    '/' :: List.intercalate ['/'] (segments.map String.toList) =
      segments.flatMap fun s => '/' :: s.toList := by
  induction segments with
  | nil => exact absurd rfl h
  | cons s segments ih =>
    cases segments with
    | nil => simp
    | cons t segments =>
      rw [List.flatMap_cons, ← ih (by simp)]
      simp [List.intercalate_cons_cons]

theorem toList_path {segments : List String} (h : segments ≠ []) :
    (Path.rooted segments).text.toList =
      '/' :: List.intercalate ['/'] (segments.map String.toList) := by
  rw [slash_intercalate h, Path.text, String.toList_join, List.flatMap_map]
  simp only [String.toList_append]
  rfl

theorem text_web {host : String} {segments : List String} (h : segments ≠ [])
    (query fragment : Option String) :
    (web host segments query fragment).text =
      String.ofList (start host.toList ++ '/' :: tail segments query fragment) := by
  have guard : pathGuard (some ⟨"", none, .domain host, none⟩) (.rooted segments) = "" := by
    unfold pathGuard
    split <;> rfl
  apply String.toList_injective
  simp only [text, web, guard, Authority.text, Authority.userinfo, Host.text, if_true,
    String.toList_append, toList_path h, String.toList_ofList, tail]
  cases query <;> cases fragment <;> simp [start]

theorem sparing_inSpecialQuery : Sparing inSpecialQuery where
  percent := by decide
  digit c hc := of_ascii (p := fun c => isHexDigit c = true → inSpecialQuery c = false) (by decide)
    (toNat_lt_of_isHexDigit hc) hc

theorem sparing_inFragment : Sparing inFragment where
  percent := by decide
  digit c hc := of_ascii (p := fun c => isHexDigit c = true → inFragment c = false) (by decide)
    (toNat_lt_of_isHexDigit hc) hc

/-- The URL is written as it is read. -/
structure Encoded (segments : List String) (query fragment : Option String) : Prop where
  nonempty : segments ≠ []
  settled : ∀ s ∈ segments, Settled s
  query : ∀ q, query = some q → ∀ c ∈ q.toList, inSpecialQuery c = false
  fragment : ∀ f, fragment = some f → ∀ c ∈ f.toList, inFragment c = false

def IsGraphic (c : Char) : Prop := 0x20 < c.toNat ∧ c.toNat < 0x7F

instance (c : Char) : Decidable (IsGraphic c) := inferInstanceAs (Decidable (_ ∧ _))

theorem isGraphic_of_not_isControl {c : Char} (h : isControl c = false) (hs : (c == ' ') = false) :
    IsGraphic c := by
  have apart : c.toNat ≠ ' '.toNat := fun he => by
    rw [beq_eq_false_iff_ne] at hs
    exact hs (Char.toNat_inj.mp he)
  simp only [isControl, Bool.or_eq_false_iff, decide_eq_false_iff_not] at h
  change c.toNat ≠ 32 at apart
  unfold IsGraphic
  omega

theorem isGraphic_of_inFragment {c : Char} (h : inFragment c = false) : IsGraphic c := by
  simp only [inFragment, Bool.or_eq_false_iff] at h
  exact isGraphic_of_not_isControl h.1.1.1.1.1 h.1.1.1.1.2

theorem isGraphic_of_inPath {c : Char} (h : inPath c = false) : IsGraphic c := by
  simp only [inPath, Bool.or_eq_false_iff] at h
  exact isGraphic_of_inFragment h.1.1.1.1

theorem undivided_of_inPath {c : Char} (h : inPath c = false) : c ≠ '?' ∧ c ≠ '#' := by
  simp only [inPath, Bool.or_eq_false_iff, beq_eq_false_iff_ne] at h
  exact ⟨h.1.1.2, h.1.1.1.2⟩

theorem isGraphic_of_inSpecialQuery {c : Char} (h : inSpecialQuery c = false) : IsGraphic c := by
  simp only [inSpecialQuery, inQuery, Bool.or_eq_false_iff] at h
  exact isGraphic_of_not_isControl h.1.1.1.1.1.1 h.1.1.1.1.1.2

theorem mem_intercalate {segments : List String} (h : segments ≠ []) {c : Char}
    (hc : c ∈ List.intercalate ['/'] (segments.map String.toList)) :
    c = '/' ∨ ∃ s ∈ segments, c ∈ s.toList := by
  have listed : c ∈ segments.flatMap fun s => '/' :: s.toList :=
    slash_intercalate h ▸ List.mem_cons_of_mem _ hc
  obtain ⟨s, hs, hc⟩ := List.mem_flatMap.mp listed
  exact (List.mem_cons.mp hc).imp_right fun hc => ⟨s, hs, hc⟩

theorem mem_tail {segments : List String} {query fragment : Option String} (h : segments ≠ [])
    {c : Char} (hc : c ∈ tail segments query fragment) :
    c = '/' ∨ c = '?' ∨ (∃ s ∈ segments, c ∈ s.toList) ∨ (∃ q, query = some q ∧ c ∈ q.toList) ∨
      ∃ f, fragment = some f ∧ (c = '#' ∨ c ∈ f.toList) := by
  rw [tail, List.mem_append, List.mem_append] at hc
  obtain hc | hc | hc := hc
  · obtain slash | inside := mem_intercalate h hc
    · exact .inl slash
    · exact .inr (.inr (.inl inside))
  · cases query with
    | none => cases hc
    | some q =>
      obtain mark | inside := List.mem_cons.mp hc
      · exact .inr (.inl mark)
      · exact .inr (.inr (.inr (.inl ⟨q, rfl, inside⟩)))
  · cases fragment with
    | none => cases hc
    | some f => exact .inr (.inr (.inr (.inr ⟨f, rfl, List.mem_cons.mp hc⟩)))

namespace Encoded

variable {segments : List String} {query fragment : Option String}

theorem graphic (h : Encoded segments query fragment) :
    ∀ c ∈ tail segments query fragment, IsGraphic c := by
  intro c hc
  obtain rfl | rfl | ⟨s, hs, hc⟩ | ⟨q, hq, hc⟩ | ⟨f, hf, rfl | hc⟩ := mem_tail h.nonempty hc
  · decide
  · decide
  · exact isGraphic_of_inPath ((h.settled s hs).unreserved c hc)
  · exact isGraphic_of_inSpecialQuery (h.query q hq c hc)
  · decide
  · exact isGraphic_of_inFragment (h.fragment f hf c hc)

theorem visible (h : Encoded segments query fragment) :
    ∀ c ∈ tail segments query fragment, 0x20 < c.toNat :=
  fun c hc => (h.graphic c hc).1

theorem undivided (h : Encoded segments query fragment) :
    ∀ c ∈ List.intercalate ['/'] (segments.map String.toList), c ≠ '?' ∧ c ≠ '#' := by
  intro c hc
  obtain rfl | ⟨s, hs, hc⟩ := mem_intercalate h.nonempty hc
  · decide
  · exact undivided_of_inPath ((h.settled s hs).unreserved c hc)

theorem cut_tail (h : Encoded segments query fragment) :
    cut (tail segments query fragment) =
      ⟨List.intercalate ['/'] (segments.map String.toList), query.map String.toList,
        fragment.map String.toList⟩ := by
  rw [tail, cut_append h.undivided]
  cases query with
  | none => cases fragment <;> simp [cut]
  | some q =>
    have hash : ∀ c ∈ q.toList, (!decide (c = '#')) = true := by
      intro c hc
      have := h.query q rfl c hc
      simp only [inSpecialQuery, inQuery, Bool.or_eq_false_iff, beq_eq_false_iff_ne] at this
      simp [this.1.1.1.2]
    have kept (f : List Char) : (q.toList ++ f).takeWhile (fun c => !decide (c = '#')) = _ :=
      List.takeWhile_append_of_pos hash
    have gone (f : List Char) : (q.toList ++ f).dropWhile (fun c => !decide (c = '#')) = _ :=
      List.dropWhile_append_of_pos hash
    cases fragment with
    | none =>
      have whole := kept []
      have rest := gone []
      rw [List.append_nil] at whole rest
      simp [cut, whole, rest]
    | some f => simp [cut, kept, gone]

end Encoded

variable {segments : List String} {query fragment : Option String}

theorem parse_text {host : String} (hh : Plain host.toList) (h : Encoded segments query fragment) :
    parse (web host segments query fragment).text = .ok (web host segments query fragment) := by
  have last : ∀ c ∈ (tail segments query fragment).getLast?, isTrimmed c = false := by
    intro c hc
    have := h.visible c (List.mem_of_getLast? hc)
    simp only [isTrimmed, decide_eq_false_iff_not]
    omega
  have pair : query.map (fun q => String.ofList (encode inSpecialQuery q.toList)) = query := by
    cases query with
    | none => rfl
    | some q => simp [encode_of_unreserved (h.query q rfl)]
  have mark : fragment.map (fun f => String.ofList (encode inFragment f.toList)) = fragment := by
    cases fragment with
    | none => rfl
    | some f => simp [encode_of_unreserved (h.fragment f rfl)]
  rw [text_web h.nonempty, parse_web hh last, filter_isKept_of_visible h.visible, h.cut_tail]
  simp only [segments_intercalate h.nonempty h.settled, String.ofList_toList, Option.map_map]
  exact congrArg Except.ok (congrArg₂ (web host segments) pair mark)

end ForumDigest.Url
