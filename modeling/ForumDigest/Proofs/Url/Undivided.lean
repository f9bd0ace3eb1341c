import ForumDigest.Proofs.Url.Web
import ForumDigest.Url.Printer
import Mathlib.Data.List.TakeWhile

namespace ForumDigest.Url

open Percent

/-- None of the marks before which a URL is cut. -/
def Undivided (cs : List Char) : Prop := ∀ c ∈ cs, c ≠ '?' ∧ c ≠ '#'

instance (cs : List Char) : Decidable (Undivided cs) :=
  decidable_of_iff (cs.all fun c => c ≠ '?' && c ≠ '#') (by simp [Undivided])

variable {c : Char} {cs xs ys : List Char}

@[simp]
theorem undivided_nil : Undivided [] := fun _ hc => absurd hc List.not_mem_nil

@[simp]
theorem undivided_cons : Undivided (c :: cs) ↔ (c ≠ '?' ∧ c ≠ '#') ∧ Undivided cs :=
  List.forall_mem_cons

@[simp]
theorem undivided_append : Undivided (xs ++ ys) ↔ Undivided xs ∧ Undivided ys :=
  List.forall_mem_append

theorem undivided_of_avoids {p : Char → Bool} (question : p '?' = true) (number : p '#' = true)
    (h : ∀ c ∈ cs, ¬ p c = true) : Undivided cs := by
  intro c hc
  constructor
  · rintro rfl
    exact h _ hc question
  · rintro rfl
    exact h _ hc number

theorem Undivided.subset (h : Undivided ys) (sub : xs ⊆ ys) : Undivided xs :=
  fun c hc => h c (sub hc)

theorem Undivided.dropWhile (h : Undivided cs) (p : Char → Bool) : Undivided (cs.dropWhile p) :=
  h.subset (List.dropWhile_subset p)

theorem undivided_flatMap {α : Type} {f : α → List Char} {l : List α}
    (h : ∀ a ∈ l, Undivided (f a)) : Undivided (l.flatMap f) := by
  intro c hc
  obtain ⟨a, ha, hc⟩ := List.mem_flatMap.mp hc
  exact h a ha c hc

theorem undivided_intercalate {sep : String} {texts : List String} (hs : Undivided sep.toList)
    (h : ∀ s ∈ texts, Undivided s.toList) : Undivided (sep.intercalate texts).toList := by
  rw [String.toList_intercalate]
  induction texts with
  | nil => simp
  | cons s texts ih =>
    have head := h s List.mem_cons_self
    have rest := ih fun t ht => h t (List.mem_cons_of_mem _ ht)
    cases texts with
    | nil => simpa using head
    | cons t texts => simpa [List.intercalate_cons_cons, head, hs] using rest

theorem exists_of_bind_ok {ε α β : Type} {x : Except ε α} {f : α → Except ε β} {b : β}
    (h : x >>= f = .ok b) : ∃ a, x = .ok a ∧ f a = .ok b := by
  cases x with
  | error e => cases h
  | ok a => exact ⟨a, rfl, h⟩

variable {reserved : Char → Bool}

theorem undivided_of_isHexDigit (h : isHexDigit c = true) : c ≠ '?' ∧ c ≠ '#' :=
  of_ascii (p := fun c => isHexDigit c = true → c ≠ '?' ∧ c ≠ '#') (by decide)
    (toNat_lt_of_isHexDigit h) h

theorem Undivided.encode (h : Undivided cs) (reserved : Char → Bool) :
    Undivided (encode reserved cs) := by
  intro c hc
  obtain ⟨hc, -⟩ | rfl | hx := mem_encode hc
  · exact h c hc
  · decide
  · exact undivided_of_isHexDigit hx

theorem undivided_encode (hs : Sparing reserved) (question : reserved '?' = true)
    (number : reserved '#' = true) (cs : List Char) : Undivided (Percent.encode reserved cs) :=
  undivided_of_avoids question number fun _ hc =>
    Bool.eq_false_iff.mp (unreserved_of_mem_encode hs hc)

theorem sparing_inUserinfo : Sparing inUserinfo where
  percent := by decide
  digit c hc := of_ascii (p := fun c => isHexDigit c = true → inUserinfo c = false) (by decide)
    (toNat_lt_of_isHexDigit hc) hc

theorem undivided_encode_inPath (cs : List Char) : Undivided (Percent.encode inPath cs) :=
  undivided_encode sparing_inPath (by decide) (by decide) cs

theorem undivided_encode_inUserinfo (cs : List Char) : Undivided (Percent.encode inUserinfo cs) :=
  undivided_encode sparing_inUserinfo (by decide) (by decide) cs

theorem undivided_toLower (h : isSchemeChar c = true) : c.toLower ≠ '?' ∧ c.toLower ≠ '#' := by
  -- Only ASCII letters have a lower case here, and the ASCII characters can be tried.
  by_cases ascii : c.toNat < 128
  · exact of_ascii (p := fun c => isSchemeChar c = true → c.toLower ≠ '?' ∧ c.toLower ≠ '#')
      (by decide) ascii h
  · have unchanged : c.toLower = c := by
      unfold Char.toLower
      rw [dif_neg]
      rintro ⟨-, le⟩
      have : c.toNat ≤ 90 := le
      omega
    rw [unchanged]
    constructor
    · rintro rfl
      exact ascii (by decide)
    · rintro rfl
      exact ascii (by decide)

theorem undivided_of_scheme? {scheme rest : List Char} (h : Undivided cs)
    (hs : scheme? cs = some (scheme, rest)) : Undivided scheme ∧ Undivided rest := by
  unfold scheme? at hs
  split at hs
  · rename_i first head rest' taken dropped
    split at hs
    · obtain ⟨rfl, rfl⟩ := Prod.mk.inj (Option.some.inj hs)
      constructor
      · intro d hd
        obtain ⟨c, hc, rfl⟩ := List.mem_map.mp hd
        rw [← taken] at hc
        exact undivided_toLower (List.mem_takeWhile_imp hc)
      · have := h.dropWhile isSchemeChar
        rw [dropped] at this
        exact (undivided_cons.mp this).2
    · cases hs
  · cases hs

theorem Undivided.cleaned (h : Undivided cs) : Undivided (cleaned cs) := by
  refine h.subset fun c hc => ?_
  have trimmed := List.mem_reverse.mp (List.mem_filter.mp hc |>.1)
  exact List.dropWhile_subset _ (List.mem_reverse.mp (List.dropWhile_subset _ trimmed))

theorem undivided_toDigits {base : Nat} (hb : 1 < base) (hb' : base ≤ 16) (n : Nat) :
    Undivided (Nat.toDigits base n) := by
  have digit : ∀ d < 16, Undivided [Nat.digitChar d] := by decide
  induction n using Nat.strong_induction_on with
  | _ n ih =>
    rw [Nat.toDigits_eq_if hb]
    split
    · exact digit n (by omega)
    · have lower : n / base < n := Nat.div_lt_self (by omega) hb
      have last : n % base < base := Nat.mod_lt _ (by omega)
      exact undivided_append.mpr ⟨ih _ lower, digit _ (by omega)⟩

theorem undivided_toString (n : Nat) : Undivided (toString n).toList := by
  rw [Nat.toString_eq_repr, Nat.toList_repr]
  exact undivided_toDigits (by decide) (by decide) n

theorem undivided_ipv4Text (n : Nat) : Undivided (Address.ipv4Text n).toList := by
  refine undivided_intercalate (by simp) fun s hs => ?_
  simp only [List.mem_cons, List.not_mem_nil, or_false] at hs
  obtain rfl | rfl | rfl | rfl := hs <;> exact undivided_toString _

theorem undivided_ipv6Text (pieces : List Nat) : Undivided (Address.ipv6Text pieces).toList := by
  have join (qs : List Nat) : Undivided (":".intercalate (qs.map Address.hexText)).toList := by
    refine undivided_intercalate (by simp) fun s hs => ?_
    obtain ⟨q, -, rfl⟩ := List.mem_map.mp hs
    rw [Address.hexText, String.toList_ofList]
    exact undivided_toDigits (by decide) (by decide) q
  unfold Address.ipv6Text
  split
  · exact join pieces
  · simp only [String.toList_append, undivided_append]
    exact ⟨⟨join _, by simp⟩, join _⟩

theorem undivided_bracketed {host : Host} (h : Host.bracketed cs = .ok host) :
    Undivided host.text.toList := by
  unfold Host.bracketed at h
  split at h
  · split at h
    · cases h
      simp [Host.text, undivided_ipv6Text]
    · cases h
  · cases h

theorem undivided_of_ascii? {name : List Char} (h : Domain.ascii? cs = some name) :
    Undivided name := by
  -- However the name was found, it is checked last.
  have checked : ∃ result : List Char,
      (if result.any Domain.isForbidden then none else some result) = some name := by
    unfold Domain.ascii? at h
    dsimp only at h
    split at h
    · exact ⟨_, h⟩
    · obtain ⟨result, -, h⟩ := Option.bind_eq_some_iff.mp h
      exact ⟨result, h⟩
  obtain ⟨result, h⟩ := checked
  split at h
  · cases h
  · rename_i allowed
    cases h
    rw [Bool.not_eq_true, List.any_eq_false] at allowed
    exact undivided_of_avoids (by decide) (by decide) allowed

theorem undivided_host_parse {host : Host} (h : Host.parse cs = .ok host) :
    Undivided host.text.toList := by
  unfold Host.parse at h
  split at h
  · exact undivided_bracketed h
  · dsimp only at h
    split at h
    · cases h
    · cases h
    · rename_i name _ named
      split at h
      · split at h
        · cases h
          exact undivided_ipv4Text _
        · cases h
      · cases h
        rw [Host.text, String.toList_ofList]
        exact undivided_of_ascii? named

theorem undivided_host_parseLoose {host : Host} (h : Host.parseLoose cs = .ok host) :
    Undivided host.text.toList := by
  unfold Host.parseLoose at h
  split at h
  · exact undivided_bracketed h
  · split at h
    · cases h
    · rename_i allowed
      cases h
      rw [Bool.not_eq_true, List.any_eq_false] at allowed
      have kept : Undivided cs := undivided_of_avoids (by decide) (by decide) allowed
      rw [Host.text, String.toList_ofList]
      exact kept.encode _

theorem undivided_userinfo (cs : List Char) :
    Undivided (userinfo cs).1.toList ∧ ∀ p ∈ (userinfo cs).2, Undivided p.toList := by
  have encoded (part : List Char) :
      Undivided (String.ofList (Percent.encode inUserinfo part)).toList := by
    rw [String.toList_ofList]
    exact undivided_encode_inUserinfo part
  unfold userinfo
  dsimp only
  split
  · exact ⟨encoded _, fun _ hp => by cases hp⟩
  · refine ⟨encoded _, fun _ hp => ?_⟩
    cases hp
    exact encoded _

theorem undivided_authority {a : Authority} (name : Undivided a.username.toList)
    (password : ∀ p ∈ a.password, Undivided p.toList) (host : Undivided a.host.text.toList) :
    Undivided a.text.toList := by
  have user : Undivided a.userinfo.toList := by
    unfold Authority.userinfo
    split
    · rename_i p hp
      simp [name, password p hp]
    · split <;> simp [name]
  unfold Authority.text
  have front : Undivided ("//" ++ a.userinfo ++ a.host.text).toList := by simp [user, host]
  rw [String.toList_append, undivided_append]
  refine ⟨front, ?_⟩
  split
  · rw [String.toList_append, undivided_append]
    exact ⟨by simp, undivided_toString _⟩
  · simp

theorem undivided_parseAuthority {scheme : String} {special : Bool} {a : Authority}
    (h : parseAuthority scheme special cs = .ok a) : Undivided a.text.toList := by
  unfold parseAuthority at h
  dsimp only at h
  obtain ⟨name, password⟩ := undivided_userinfo ((splitLast '@' cs).getD ([], cs)).1
  split at h
  · cases h
  · split at h
    · obtain ⟨host, parsed, h⟩ := exists_of_bind_ok h
      obtain ⟨port, -, h⟩ := exists_of_bind_ok h
      cases h
      exact undivided_authority name password (undivided_host_parse parsed)
    · obtain ⟨host, parsed, h⟩ := exists_of_bind_ok h
      obtain ⟨port, -, h⟩ := exists_of_bind_ok h
      cases h
      exact undivided_authority name password (undivided_host_parseLoose parsed)

theorem undivided_shorten (kind : SchemeKind) {earlier : List String}
    (h : ∀ s ∈ earlier, Undivided s.toList) :
    ∀ s ∈ shorten kind earlier, Undivided s.toList := by
  unfold shorten
  split
  · split
    · exact h
    · simp
  · exact fun s hs => h s (List.mem_cons_of_mem _ hs)
  · exact h

theorem undivided_addSegment (kind : SchemeKind) (isLast : Bool) {earlier : List String}
    (h : ∀ s ∈ earlier, Undivided s.toList) (raw : List Char) :
    ∀ s ∈ addSegment kind isLast earlier raw, Undivided s.toList := by
  have segment := undivided_encode_inPath raw
  have closed (segments : List String) (hs : ∀ s ∈ segments, Undivided s.toList) :
      ∀ s ∈ if isLast then "" :: segments else segments, Undivided s.toList := by
    split
    · exact List.forall_mem_cons.mpr ⟨undivided_nil, hs⟩
    · exact hs
  unfold addSegment
  dsimp only
  split
  · exact closed _ (undivided_shorten kind h)
  · split
    · exact closed _ h
    · split
      · have drive := segment.subset (List.take_subset 1 _)
        simpa using drive
      · exact List.forall_mem_cons.mpr ⟨by simpa using segment, h⟩

theorem undivided_addSegments (kind : SchemeKind) {earlier : List String}
    (h : ∀ s ∈ earlier, Undivided s.toList) (raws : List (List Char)) :
    ∀ s ∈ addSegments kind earlier raws, Undivided s.toList := by
  induction raws generalizing earlier with
  | nil => exact h
  | cons raw raws ih =>
    cases raws with
    | nil => exact undivided_addSegment kind true h raw
    | cons next raws => exact ih (undivided_addSegment kind false h raw)

/-- Every segment of a path is encoded, so the text may hold marks where its path shows none. -/
theorem undivided_segments (kind : SchemeKind) (cs : List Char) :
    ∀ s ∈ segments kind cs, Undivided s.toList := by
  have added : ∀ s ∈ (addSegments kind [] (cs.splitOnP (isSlash kind.isSpecial))).reverse,
      Undivided s.toList := by
    intro s hs
    exact undivided_addSegments kind (by simp) _ s (List.mem_reverse.mp hs)
  unfold segments withoutEmptyHead
  split
  · split
    · simp
    · exact fun s hs => added s (List.dropWhile_subset _ hs)
  · exact added

theorem undivided_rooted {segments : List String} (h : ∀ s ∈ segments, Undivided s.toList) :
    Undivided (Path.rooted segments).text.toList := by
  rw [Path.text, String.toList_join]
  refine undivided_flatMap fun t ht => ?_
  obtain ⟨s, hs, rfl⟩ := List.mem_map.mp ht
  simpa using h s hs

theorem undivided_rootedPath (kind : SchemeKind) (cs : List Char) :
    Undivided (rootedPath kind cs).text.toList := by
  unfold rootedPath
  split
  · refine undivided_rooted fun s hs => ?_
    split at hs <;> simp_all
  · split <;> exact undivided_rooted (undivided_segments kind _)

theorem undivided_fileParts {a : Authority} {path : Path} (h : fileParts cs = .ok (a, path)) :
    Undivided a.text.toList ∧ Undivided path.text.toList := by
  have nobody : Undivided (Authority.text ⟨"", none, .domain "", none⟩).toList :=
    undivided_authority undivided_nil (by simp) undivided_nil
  unfold fileParts at h
  dsimp only at h
  split at h
  · split at h
    · split at h
      · -- The place of the host is taken by a drive, which is the path's.
        cases h
        exact ⟨nobody, undivided_rooted (undivided_segments _ _)⟩
      · split at h
        · cases h
          exact ⟨nobody, undivided_rootedPath _ _⟩
        · obtain ⟨host, parsed, h⟩ := exists_of_bind_ok h
          have shown (hidden : Prop) [Decidable hidden] :
              Undivided (if hidden then Host.domain "" else host).text.toList := by
            split
            · exact undivided_nil
            · exact undivided_host_parse parsed
          cases h
          exact ⟨undivided_authority undivided_nil (by simp) (shown _), undivided_rootedPath _ _⟩
    · cases h
      exact ⟨nobody, undivided_rootedPath _ _⟩
  · cases h
    exact ⟨nobody, undivided_rootedPath _ _⟩

theorem undivided_hierarchy {scheme : String} {a : Option Authority} {path : Path}
    (h : Undivided cs) (parsed : hierarchy scheme cs = .ok (a, path)) :
    (∀ b ∈ a, Undivided b.text.toList) ∧ Undivided path.text.toList := by
  have only {b : Authority} (hb : Undivided b.text.toList) :
      ∀ b' ∈ some b, Undivided b'.text.toList := by
    rintro _ ⟨⟩
    exact hb
  unfold hierarchy at parsed
  dsimp only at parsed
  split at parsed
  · obtain ⟨b, named, parsed⟩ := exists_of_bind_ok parsed
    cases parsed
    exact ⟨only (undivided_parseAuthority named), undivided_rootedPath _ _⟩
  · obtain ⟨⟨b, path'⟩, named, parsed⟩ := exists_of_bind_ok parsed
    cases parsed
    exact ⟨only (undivided_fileParts named).1, (undivided_fileParts named).2⟩
  · obtain ⟨b, named, parsed⟩ := exists_of_bind_ok parsed
    cases parsed
    exact ⟨only (undivided_parseAuthority named), undivided_rootedPath _ _⟩
  · cases parsed
    exact ⟨by simp, undivided_rooted (undivided_segments _ _)⟩
  · cases parsed
    refine ⟨by simp, ?_⟩
    rw [Path.text, String.toList_ofList]
    exact h.encode _

theorem undivided_pathGuard (a : Option Authority) (path : Path) :
    Undivided (pathGuard a path).toList := by
  unfold pathGuard
  split
  · split <;> simp
  · simp

theorem parse_undivided {s : String} {u : Url} (h : Undivided s.toList) (parsed : parse s = .ok u) :
    u.query = none ∧ u.fragment = none ∧ Undivided u.text.toList := by
  unfold parse at parsed
  split at parsed
  · cases parsed
  · rename_i scheme rest found
    obtain ⟨schemed, undivided⟩ := undivided_of_scheme? h.cleaned found
    dsimp only at parsed
    rw [cut_of_undivided undivided] at parsed
    obtain ⟨⟨a, path⟩, split, parsed⟩ := exists_of_bind_ok parsed
    obtain ⟨authority, place⟩ := undivided_hierarchy undivided split
    cases parsed
    refine ⟨rfl, rfl, ?_⟩
    have guard := undivided_pathGuard a path
    unfold text
    cases a with
    | none => simp [schemed, guard, place]
    | some b => simp [schemed, guard, place, authority b rfl]

end ForumDigest.Url
