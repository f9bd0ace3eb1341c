import ForumDigest.Text.Blank
import Mathlib.Data.List.TakeWhile

namespace ForumDigest.Text

variable {cs ds : List Char}

/-- No blank stands at either end. -/
structure Tight (cs : List Char) : Prop where
  first : ∀ c ∈ cs.head?, isBlank c = false
  last : ∀ c ∈ cs.getLast?, isBlank c = false

/-- The text `ds` is `cs` without the blanks at its two ends. -/
structure Trims (cs ds : List Char) : Prop where
  cut : ∃ front back, cs = front ++ ds ++ back ∧ (∀ c ∈ front, isBlank c = true) ∧
    ∀ c ∈ back, isBlank c = true
  tight : Tight ds

theorem dropWhile_isBlank (h : ∀ c ∈ cs.head?, isBlank c = false) : cs.dropWhile isBlank = cs := by
  cases cs with
  | nil => rfl
  | cons c cs => rw [List.dropWhile_cons, h c rfl, if_neg Bool.false_ne_true]

theorem head?_trimStart (cs : List Char) : ∀ c ∈ (trimStart cs).head?, isBlank c = false := by
  intro c hc
  have h := List.head?_dropWhile_not isBlank cs
  rw [trimStart] at hc
  rw [show (cs.dropWhile isBlank).head? = some c from hc] at h
  exact h

theorem getLast?_trimEnd (cs : List Char) : ∀ c ∈ (trimEnd cs).getLast?, isBlank c = false := by
  intro c hc
  rw [trimEnd, List.getLast?_reverse] at hc
  exact head?_trimStart cs.reverse c hc

theorem exists_trimStart (cs : List Char) :
    ∃ front, cs = front ++ trimStart cs ∧ ∀ c ∈ front, isBlank c = true :=
  ⟨cs.takeWhile isBlank, List.takeWhile_append_dropWhile.symm, fun _ => List.mem_takeWhile_imp⟩

theorem exists_trimEnd (cs : List Char) :
    ∃ back, cs = trimEnd cs ++ back ∧ ∀ c ∈ back, isBlank c = true := by
  obtain ⟨front, hf, blank⟩ := exists_trimStart cs.reverse
  refine ⟨front.reverse, ?_, fun c hc => blank c (List.mem_reverse.mp hc)⟩
  have reversed := congrArg List.reverse hf
  rwa [List.reverse_reverse, List.reverse_append] at reversed

theorem trims_trim (cs : List Char) : Trims cs (trim cs) := by
  obtain ⟨front, hf, blankFront⟩ := exists_trimStart cs
  obtain ⟨back, hb, blankBack⟩ := exists_trimEnd (trimStart cs)
  refine ⟨⟨front, back, ?_, blankFront, blankBack⟩, ?_, getLast?_trimEnd _⟩
  · rw [List.append_assoc, trim, ← hb]
    exact hf
  · -- What is left of the text still begins where the blanks in front of it ended.
    intro c hc
    refine head?_trimStart cs c ?_
    rw [hb, List.head?_append]
    rw [trim] at hc
    rw [show (trimEnd (trimStart cs)).head? = some c from hc]
    rfl

theorem Trims.eq (h : Trims cs ds) : trim cs = ds := by
  obtain ⟨⟨front, back, rfl, blankFront, blankBack⟩, tight⟩ := h
  have start : trimStart (front ++ ds ++ back) = trimStart (ds ++ back) := by
    rw [List.append_assoc, trimStart, List.dropWhile_append_of_pos blankFront]
    rfl
  rw [trim, start]
  cases ds with
  | nil =>
    have none : trimStart ([] ++ back) = [] := List.dropWhile_eq_nil_iff.mpr blankBack
    rw [none]
    rfl
  | cons d ds =>
    have kept : trimStart (d :: ds ++ back) = d :: ds ++ back := dropWhile_isBlank tight.first
    have blank : ∀ c ∈ back.reverse, isBlank c = true := fun c hc =>
      blankBack c (List.mem_reverse.mp hc)
    have last : ∀ c ∈ (d :: ds).reverse.head?, isBlank c = false := by
      rw [List.head?_reverse]
      exact tight.last
    rw [kept, trimEnd, List.reverse_append, List.dropWhile_append_of_pos blank,
      dropWhile_isBlank last, List.reverse_reverse]

theorem trims_iff : Trims cs ds ↔ trim cs = ds :=
  ⟨Trims.eq, fun h => h ▸ trims_trim cs⟩

theorem tight_trim (cs : List Char) : Tight (trim cs) := (trims_trim cs).tight

theorem trim_of_tight (h : Tight cs) : trim cs = cs :=
  Trims.eq ⟨⟨[], [], by simp, by simp, by simp⟩, h⟩

end ForumDigest.Text
