import ForumDigest.Proofs.Config.Normal

namespace ForumDigest.Subscription

open Text

variable {s s' : Subscription} {name : String} {rest : List Char}

inductive Revalidates (s : Subscription) : Subscription × Option Refusal → Prop where
  | settled (unmarked : ∀ rest, s.subreddit.toList ≠ 'r' :: '/' :: rest) : Revalidates s (s, none)
  | stripped {rest : List Char} {name : String} (marked : s.subreddit.toList = 'r' :: '/' :: rest)
      (named : rest ≠ []) (trims : Trims rest name.toList) :
      Revalidates s ({ s with subreddit := name }, none)
  | emptied (bare : s.subreddit = "r/") : Revalidates s (s, some (.missingField "subreddit"))

theorem validate_eq_none_iff : s.validate = (s', none) ↔ s.accepted = .ok s' := by
  unfold accepted
  rcases s.validate with ⟨t, _ | r⟩ <;> simp

theorem validate_of_unnamed (h : normalizedName s.subreddit = "") :
    s.validate = (s, some (.missingField "subreddit")) := if_pos h

theorem keeps_self {o : Option String} (h : ∀ t, o = some t → ∃ c ∈ t.toList, isBlank c = false) :
    Keeps o o := by
  cases o with
  | none => exact .unset
  | some t =>
    obtain ⟨c, mem, hc⟩ := h t rfl
    exact .text mem hc

namespace Normal

theorem names (h : s.Normal) (unmarks : Unmarks s.subreddit.toList rest)
    (trims : Trims rest name.toList) : Names s.subreddit name := by
  have tight : trim s.subreddit.toList = s.subreddit.toList := by
    simpa [trimmed] using congrArg String.toList h.tight
  exact ⟨_, rest, trims_iff.mpr tight, unmarks, trims⟩

theorem validate_of_names (h : s.Normal) (names : Names s.subreddit name) (named : name ≠ "") :
    s.validate = ({ s with subreddit := name }, none) := by
  obtain ⟨search, comments, request⟩ : Keeps s.search s.search ∧
      Keeps s.commentsUrlTemplate s.commentsUrlTemplate ∧
      Keeps s.requestUrlTemplate s.requestUrlTemplate := by
    refine ⟨?_, ?_, ?_⟩ <;> exact keeps_self (h.texts _ (by simp))
  have normalizes : Normalizes s { s with subreddit := name } :=
    ⟨names, search, comments, request, rfl⟩
  rw [validate_eq_none_iff, accepted_eq_ok_iff]
  exact ⟨normalizes, normalizes.normal named (Nat.one_le_iff_ne_zero.mp h.limited)⟩

theorem trim_ne_nil_of_marked (h : s.Normal) (marked : s.subreddit.toList = 'r' :: '/' :: rest)
    (named : rest ≠ []) : trim rest ≠ [] := by
  have last : ∀ c ∈ rest.getLast?, isBlank c = false := by
    obtain ⟨c, cs, rfl⟩ := List.exists_cons_of_ne_nil named
    have tight : Tight s.subreddit.toList := by
      rw [← h.tight, trimmed, String.toList_ofList]
      exact tight_trim _
    rw [marked] at tight
    simpa only [List.getLast?_cons_cons] using tight.last
  intro empty
  obtain ⟨⟨front, back, cut, blankFront, blankBack⟩, -⟩ := trims_iff.mpr empty
  have blank : ∀ c ∈ rest, isBlank c = true := by
    intro c hc
    rw [cut, List.append_nil] at hc
    exact (List.mem_append.mp hc).elim (blankFront c) (blankBack c)
  have final := last _ (List.getLast?_eq_some_getLast named)
  rw [blank _ (List.getLast_mem named)] at final
  cases final

theorem revalidates (h : s.Normal) : Revalidates s s.validate := by
  by_cases marked : ∃ rest, s.subreddit.toList = 'r' :: '/' :: rest
  · obtain ⟨rest, marked⟩ := marked
    have unmarks : Unmarks s.subreddit.toList rest := marked ▸ .marked rest
    by_cases named : rest = []
    · subst named
      have bare : s.subreddit = "r/" := String.toList_injective marked
      have unnamed : normalizedName s.subreddit = "" :=
        names_iff.mp (h.names unmarks (trims_iff.mpr rfl))
      rw [validate_of_unnamed unnamed]
      exact .emptied bare
    · have trims : Trims rest (String.ofList (trim rest)).toList := by
        rw [String.toList_ofList]
        exact trims_trim rest
      have left : String.ofList (trim rest) ≠ "" := fun he =>
        h.trim_ne_nil_of_marked marked named (by simpa using congrArg String.toList he)
      rw [h.validate_of_names (h.names unmarks trims) left]
      exact .stripped marked named trims
  · rw [not_exists] at marked
    have tight : Trims s.subreddit.toList s.subreddit.toList := by
      rw [trims_iff]
      simpa [trimmed] using congrArg String.toList h.tight
    rw [h.validate_of_names (h.names (.unmarked marked) tight) h.named]
    exact .settled marked

end Normal

theorem Revalidates.unmarked_of_settled (h : Revalidates s (s, none)) :
    ∀ rest, s.subreddit.toList ≠ 'r' :: '/' :: rest := by
  generalize hx : (s, none) = x at h
  cases h with
  | settled unmarked => exact unmarked
  | @stripped rest name marked named trims =>
    -- The name would be as long as what is left of it.
    have same : name = s.subreddit := congrArg (·.1.subreddit) hx.symm
    obtain ⟨front, back, cut, -⟩ := trims.cut
    have longer := congrArg List.length marked
    have shorter := congrArg List.length cut
    simp only [same, List.length_append, List.length_cons] at longer shorter
    omega
  | emptied => cases hx

/-- An accepted subscription is left as it is by another validation exactly if its name does not
begin with an `r/`; if it does, this `r/` is taken away as the one before it was. -/
theorem validate_of_validated (h : s.validate = (s', none)) :
    (s'.validate = (s', none) ↔ ∀ rest, s'.subreddit.toList ≠ 'r' :: '/' :: rest) ∧
      Revalidates s' s'.validate := by
  have normal : s'.Normal := (accepted_eq_ok_iff.mp (validate_eq_none_iff.mp h)).2
  have revalidates := normal.revalidates
  refine ⟨⟨fun settled => ?_, fun unmarked => ?_⟩, revalidates⟩
  · rw [settled] at revalidates
    exact revalidates.unmarked_of_settled
  · generalize s'.validate = x at revalidates
    cases revalidates with
    | settled => rfl
    | stripped marked => exact absurd marked (unmarked _)
    | emptied bare => exact absurd (congrArg String.toList bare) (unmarked [])

theorem validate_of_validated_of_blanks :
    validate { subreddit := "\t r/ rust ", search := some " " } = ({ subreddit := "rust" }, none) ∧
      validate { subreddit := "rust" } = ({ subreddit := "rust" }, none) := by
  have first : validate { subreddit := "\t r/ rust ", search := some " " } =
      ({ subreddit := "rust" }, none) := by
    decide
  exact ⟨first, (validate_of_validated first).1.mpr (by simp)⟩

/-- Of two marks each validation takes one. -/
theorem not_settled_of_two_marks :
    validate { subreddit := "r/r/rust" } = ({ subreddit := "r/rust" }, none) ∧
      validate { subreddit := "r/rust" } = ({ subreddit := "rust" }, none) ∧
      ¬ ∀ s s' : Subscription, s.validate = (s', none) → s'.validate = (s', none) := by
  have first : validate { subreddit := "r/r/rust" } = ({ subreddit := "r/rust" }, none) := by decide
  have second : validate { subreddit := "r/rust" } = ({ subreddit := "rust" }, none) := by decide
  refine ⟨first, second, fun settled => ?_⟩
  exact absurd (settled _ _ first) (by decide)

end ForumDigest.Subscription
