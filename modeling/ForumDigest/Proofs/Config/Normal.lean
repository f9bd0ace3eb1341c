import ForumDigest.Config.Validation
import ForumDigest.Proofs.Text.Trim

namespace ForumDigest

open Text

namespace Subscription

inductive Unmarks : List Char → List Char → Prop where
  | marked (name : List Char) : Unmarks ('r' :: '/' :: name) name
  | unmarked {name : List Char} (h : ∀ rest, name ≠ 'r' :: '/' :: rest) : Unmarks name name

/-- A name as it is written and as it is kept: trimmed, without one `r/`, and trimmed again. -/
def Names (written name : String) : Prop :=
  ∃ outer inner, Trims written.toList outer ∧ Unmarks outer inner ∧ Trims inner name.toList

theorem unmarks_iff {cs ds : List Char} : Unmarks cs ds ↔ withoutMark cs = ds := by
  constructor
  · rintro (_ | h)
    · rfl
    · unfold withoutMark
      split
      · exact absurd rfl (h _)
      · rfl
  · rintro rfl
    unfold withoutMark
    split
    · exact .marked _
    · rename_i h
      exact .unmarked fun rest he => h rest he

theorem names_iff {written name : String} : Names written name ↔ normalizedName written = name := by
  unfold Names normalizedName
  simp only [trims_iff, unmarks_iff, exists_and_left, exists_eq_left']
  rw [← String.toList_inj, String.toList_ofList]

/-- An optional text as it is written and as it is kept: a blank one is given up. -/
inductive Keeps : Option String → Option String → Prop where
  | unset : Keeps none none
  | text {t : String} {c : Char} (mem : c ∈ t.toList) (h : isBlank c = false) :
      Keeps (some t) (some t)
  | blank {t : String} (h : ∀ c ∈ t.toList, isBlank c = true) : Keeps (some t) none

theorem keeps_iff {o o' : Option String} : Keeps o o' ↔ kept o = o' := by
  have blank_iff (t : String) : isBlankText t = true ↔ ∀ c ∈ t.toList, isBlank c = true :=
    List.all_eq_true
  have text_iff (t : String) : isBlankText t = false ↔ ∃ c ∈ t.toList, isBlank c = false := by
    simp [isBlankText]
  constructor
  · rintro (_ | ⟨mem, h⟩ | h)
    · rfl
    · simp [kept, (text_iff _).mpr ⟨_, mem, h⟩]
    · simp [kept, (blank_iff _).mpr h]
  · rintro rfl
    cases o with
    | none => exact .unset
    | some t =>
      cases hb : isBlankText t with
      | true =>
        rw [show kept (some t) = none by simp [kept, hb]]
        exact .blank ((blank_iff t).mp hb)
      | false =>
        obtain ⟨c, mem, h⟩ := (text_iff t).mp hb
        rw [show kept (some t) = some t by simp [kept, hb]]
        exact .text mem h

/-- A subscription as it is written and as it is kept. -/
structure Normalizes (s s' : Subscription) : Prop where
  name : Names s.subreddit s'.subreddit
  search : Keeps s.search s'.search
  commentsUrlTemplate : Keeps s.commentsUrlTemplate s'.commentsUrlTemplate
  requestUrlTemplate : Keeps s.requestUrlTemplate s'.requestUrlTemplate
  rest : s' = { s with
    subreddit := s'.subreddit
    search := s'.search
    commentsUrlTemplate := s'.commentsUrlTemplate
    requestUrlTemplate := s'.requestUrlTemplate }

structure Normal (s : Subscription) : Prop where
  named : s.subreddit ≠ ""
  tight : trimmed s.subreddit = s.subreddit
  limited : 1 ≤ s.limit.toNat
  texts : ∀ o ∈ [s.search, s.commentsUrlTemplate, s.requestUrlTemplate], ∀ t, o = some t →
    ∃ c ∈ t.toList, isBlank c = false

/-- Why a subscription cannot be kept. A name that is missing counts before a limit of zero. -/
inductive Refuses (s : Subscription) : Refusal → Prop where
  | unnamed (h : Names s.subreddit "") : Refuses s (.missingField "subreddit")
  | unlimited {name : String} (h : Names s.subreddit name) (named : name ≠ "")
      (zero : s.limit.toNat = 0) : Refuses s (.invalidValue "limit" "0")

variable {s s' : Subscription}

theorem normalizes_iff : Normalizes s s' ↔ s' = s.withName.withoutBlankTexts := by
  constructor
  · rintro ⟨name, search, comments, request, rest⟩
    rw [rest, ← names_iff.mp name, ← keeps_iff.mp search, ← keeps_iff.mp comments,
      ← keeps_iff.mp request]
    rfl
  · rintro rfl
    constructor <;> simp only [names_iff, keeps_iff, withoutBlankTexts, withName]

theorem Keeps.text_of_some {o : Option String} {t : String} (h : Keeps o (some t)) :
    ∃ c ∈ t.toList, isBlank c = false := by
  cases h with
  | text mem h => exact ⟨_, mem, h⟩

theorem Normalizes.normal (h : Normalizes s s') (named : s'.subreddit ≠ "")
    (limited : s.limit.toNat ≠ 0) : s'.Normal where
  named := named
  tight := by
    obtain ⟨outer, inner, -, -, trims⟩ := h.name
    rw [trimmed, trim_of_tight trims.tight, String.ofList_toList]
  limited := by
    rw [h.rest]
    exact Nat.one_le_iff_ne_zero.mpr limited
  texts := by
    simp only [List.forall_mem_cons, List.not_mem_nil, false_implies, implies_true, and_true]
    refine ⟨?_, ?_, ?_⟩
    · rintro t ht
      exact (ht ▸ h.search).text_of_some
    · rintro t ht
      exact (ht ▸ h.commentsUrlTemplate).text_of_some
    · rintro t ht
      exact (ht ▸ h.requestUrlTemplate).text_of_some

theorem toNat_limit_eq_zero_iff : s.limit.toNat = 0 ↔ s.limit = 0 := by
  rw [← UInt64.toNat_inj]
  rfl

theorem accepted_of_unnamed (h : normalizedName s.subreddit = "") :
    s.accepted = .error (.missingField "subreddit") := by
  simp only [accepted, validate, h, if_true]

theorem accepted_of_unlimited (named : normalizedName s.subreddit ≠ "") (zero : s.limit = 0) :
    s.accepted = .error (.invalidValue "limit" "0") := by
  simp only [accepted, validate, named, zero, if_true, if_false]

theorem accepted_of_limited (named : normalizedName s.subreddit ≠ "") (limited : s.limit ≠ 0) :
    s.accepted = .ok s.withName.withoutBlankTexts := by
  simp only [accepted, validate, named, limited, if_false]

theorem accepted_eq_ok_iff : s.accepted = .ok s' ↔ Normalizes s s' ∧ s'.Normal := by
  by_cases named : normalizedName s.subreddit = ""
  · rw [accepted_of_unnamed named]
    constructor
    · intro h
      cases h
    · rintro ⟨normalizes, normal⟩
      exact absurd ((names_iff.mp normalizes.name).symm.trans named) normal.named
  by_cases zero : s.limit = 0
  · rw [accepted_of_unlimited named zero]
    constructor
    · intro h
      cases h
    · rintro ⟨normalizes, normal⟩
      have limited := normal.limited
      rw [normalizes.rest] at limited
      exact absurd (toNat_limit_eq_zero_iff.mpr zero) (Nat.one_le_iff_ne_zero.mp limited)
  rw [accepted_of_limited named zero, Except.ok.injEq, eq_comm, ← normalizes_iff]
  refine ⟨fun h => ⟨h, h.normal ?_ fun hz => zero (toNat_limit_eq_zero_iff.mp hz)⟩, And.left⟩
  rwa [← names_iff.mp h.name]

theorem accepted_eq_error_iff {r : Refusal} : s.accepted = .error r ↔ s.Refuses r := by
  constructor
  · intro h
    by_cases named : normalizedName s.subreddit = ""
    · rw [accepted_of_unnamed named] at h
      cases h
      exact .unnamed (names_iff.mpr named)
    by_cases zero : s.limit = 0
    · rw [accepted_of_unlimited named zero] at h
      cases h
      exact .unlimited (names_iff.mpr rfl) named (toNat_limit_eq_zero_iff.mpr zero)
    rw [accepted_of_limited named zero] at h
    cases h
  · rintro (h | ⟨h, named, zero⟩)
    · exact accepted_of_unnamed (names_iff.mp h)
    · exact accepted_of_unlimited (names_iff.mp h ▸ named) (toNat_limit_eq_zero_iff.mp zero)

end Subscription

end ForumDigest
