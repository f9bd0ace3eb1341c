import ForumDigest.Proofs.CommandLine.Isolation
import ForumDigest.Proofs.Config.Acceptance

namespace ForumDigest

open Text Subscription

namespace Arguments

/-- A name with one `r/` in front of it at most, and no blank at either end of what is behind it. -/
def IsPlain (cs : List Char) : Prop :=
  ∃ rest, Unmarks cs rest ∧ Tight rest ∧ ∀ more, rest ≠ 'r' :: '/' :: more

theorem unmarked_withoutMarks (cs more : List Char) : withoutMarks cs ≠ 'r' :: '/' :: more := by
  fun_induction withoutMarks cs with
  | case1 name ih => exact ih
  | case2 name h => exact fun he => h more he

theorem tight_marked {rest : List Char} (h : Tight rest) : Tight ('r' :: '/' :: rest) where
  first := by simp; decide
  last := by
    cases rest with
    | nil => simp; decide
    | cons c cs =>
      rw [List.getLast?_cons_cons, List.getLast?_cons_cons]
      exact h.last

theorem tight_of_withoutMarks (cs : List Char) (h : Tight (withoutMarks cs)) : Tight cs := by
  fun_induction withoutMarks cs with
  | case1 name ih => exact tight_marked (ih h)
  | case2 name => exact h

/-- The two ways to a name's normal form agree exactly where it is plainly written. -/
theorem withoutMarks_eq_iff {cs : List Char} :
    withoutMarks cs = trim (withoutMark (trim cs)) ↔ IsPlain cs := by
  constructor
  · intro h
    have tight : Tight cs := tight_of_withoutMarks cs (h ▸ tight_trim _)
    rw [trim_of_tight tight] at h
    have unmarks : Unmarks cs (withoutMark cs) := unmarks_iff.mpr rfl
    generalize withoutMark cs = rest at h unmarks
    cases unmarks with
    | marked =>
      have inner : Tight rest := tight_of_withoutMarks rest (h ▸ tight_trim _)
      rw [trim_of_tight inner] at h
      exact ⟨rest, .marked rest, inner, fun more he => unmarked_withoutMarks rest more (h.trans he)⟩
    | unmarked unmarked => exact ⟨cs, .unmarked unmarked, tight, unmarked⟩
  · rintro ⟨rest, unmarks, inner, unmarked⟩
    have alone : withoutMarks rest = trim rest := by
      rw [withoutMarks_unmarked unmarked, trim_of_tight inner]
    cases unmarks with
    | marked =>
      rw [trim_of_tight (tight_marked inner)]
      exact alone
    | unmarked =>
      rw [trim_of_tight inner, unmarks_iff.mp (.unmarked unmarked)]
      exact alone

instance (cs : List Char) : Decidable (IsPlain cs) := decidable_of_iff _ withoutMarks_eq_iff

example : ¬ IsPlain " rust ".toList ∧ ¬ IsPlain "r/ rust".toList ∧ ¬ IsPlain "r/r/rust".toList := by
  decide

theorem isPlain_iff {name : String} :
    IsPlain name.toList ↔ withoutMarks name.toList = (normalizedName name).toList := by
  rw [normalizedName, String.toList_ofList, withoutMarks_eq_iff]

variable {a : Arguments} {name : String}

theorem selects_iff (named : a.subreddit = some name) (s : Subscription) :
    a.selects s = true ↔ withoutMarks name.toList = s.subreddit.toList := by
  simp only [selects, named, decide_eq_true_eq]

theorem selects_iff_names (named : a.subreddit = some name) (plain : IsPlain name.toList)
    (s : Subscription) : a.selects s = true ↔ Names name s.subreddit := by
  rw [selects_iff named, isPlain_iff.mp plain, String.toList_inj, names_iff]

end Arguments

theorem Configuration.normalized_of_parse {text : String} {ss : List Subscription}
    {config : Configuration} (held : Holds text ss) (accepted : parse text = .ok config) :
    List.Forall₂ Normalizes ss config.subscriptions := by
  have read : ofToml text = .ok ⟨ss⟩ := ofToml_eq_ok_iff.mpr held
  rw [parse_of_read read] at accepted
  cases taken : Configuration.accepted ⟨ss⟩ with
  | error r =>
    rw [taken] at accepted
    cases accepted
  | ok config' =>
    rw [taken] at accepted
    obtain rfl := Except.ok.inj accepted
    exact (accepted_eq_ok_iff.mp taken).1

namespace Outcome

def unmatched : String := "Error: no configured subreddit matched"

theorem unmatched_not_mem {vs : List Visit} {o : Outcome} (h : Reports vs o) (visited : vs ≠ []) :
    unmatched ∉ o.errorLines := by
  rw [h.told, List.mem_append, not_or]
  constructor
  · intro hm
    obtain ⟨v, -, hv⟩ := List.mem_flatMap.mp hm
    rw [Visit.complaints] at hv
    cases result : v.result with
    | ok posts => simp [result] at hv
    | error f =>
      rw [result] at hv
      have first := congrArg (·.toList.head?) (List.mem_singleton.mp hv)
      simp [unmatched] at first
  · rw [Visit.lastWords, if_neg visited]
    split
    · simp
    · intro hm
      have last := congrArg (·.toList.reverse.take 3) (List.mem_singleton.mp hm)
      simp [unmatched] at last

/-- Asked for the name `s`, the arguments select every subscription that is written with it, and
only what is kept under the same name; so they are not told that nothing matched. The subscriptions
`ss` are those of the configuration as they are written. -/
structure Honors (a : Arguments) (found : Option Entry) (ss : List Subscription)
    (config : Configuration) (s : String) : Prop where
  own : ∀ e e', (e, e') ∈ ss.zip config.subscriptions → e.subreddit = s → a.selects e' = true
  only : ∀ e' ∈ config.subscriptions, a.selects e' = true → Names s e'.subreddit
  matched : ∀ c, unmatched ∉ (run a found c).errorLines

/-- A configuration trims its names and takes one `r/` away; the arguments take every `r/` away and
trim nothing. So a name selects what is configured under it exactly if it is plainly written. -/
theorem honors_iff {a : Arguments} {found : Option Entry} {text s : String}
    {ss : List Subscription} {config : Configuration} (named : a.subreddit = some s)
    (read : Configuration.contents a.configPath found = .ok text)
    (held : Configuration.Holds text ss) (written : s ∈ ss.map Subscription.subreddit)
    (accepted : Configuration.parse text = .ok config) :
    Honors a found ss config s ↔ Arguments.IsPlain s.toList := by
  have normalized := Configuration.normalized_of_parse held accepted
  rw [← List.map_fst_zip normalized.length_eq.le, List.map_map] at written
  obtain ⟨⟨e, e'⟩, paired, rfl⟩ := List.mem_map.mp written
  have name {e e' : Subscription} (h : (e, e') ∈ ss.zip config.subscriptions) :
      Names e.subreddit e'.subreddit :=
    ((List.forall₂_iff_zip.mp normalized).2 h).name
  constructor
  · intro h
    have selected := h.own e e' paired rfl
    rw [Arguments.selects_iff named, ← names_iff.mp (name paired)] at selected
    exact Arguments.isPlain_iff.mpr selected
  · intro plain
    have selects_iff := Arguments.selects_iff_names named plain
    refine ⟨?_, fun d' _ hs => (selects_iff d').mp hs, ?_⟩
    · rintro d d' hd same
      exact (selects_iff d').mpr (same ▸ name hd)
    · intro c
      have loaded : Configuration.load a.configPath found = .ok config := by
        rw [Configuration.load, read]
        exact congrArg (Except.mapError Failure.config) accepted
      obtain ⟨vs, visits, reports⟩ := run_of_read loaded c
      refine unmatched_not_mem reports ?_
      rintro rfl
      have kept : e' ∈ config.subscriptions.filter a.selects :=
        List.mem_filter.mpr ⟨(List.of_mem_zip paired).2, (selects_iff e').mpr (name paired)⟩
      rw [← visits.order] at kept
      cases kept

def sampleArguments (name : String) : Arguments where
  config := some "feed.toml"
  subreddit := some name

def sampleFile (text : String) : Option Entry := some (.file (Utf8.encode text.toList))

def sampleMarked : String :=
  "[[subreddits]]\nsubreddit = \"r/rust\"\n[[subreddits]]\nsubreddit = \" rust\"\n"

set_option maxRecDepth 4000 in
/-- A name with a mark finds what is configured with it and without. -/
theorem honors_iff_of_marked :
    (sampleArguments "r/rust").subreddit = some "r/rust" ∧
      Configuration.contents (sampleArguments "r/rust").configPath (sampleFile sampleMarked) =
        .ok sampleMarked ∧
      Configuration.Holds sampleMarked [{ subreddit := "r/rust" }, { subreddit := " rust" }] ∧
      Configuration.parse sampleMarked = .ok ⟨[{ subreddit := "rust" }, { subreddit := "rust" }]⟩ ∧
      Honors (sampleArguments "r/rust") (sampleFile sampleMarked)
        [{ subreddit := "r/rust" }, { subreddit := " rust" }]
        ⟨[{ subreddit := "rust" }, { subreddit := "rust" }]⟩ "r/rust" := by
  have read : Configuration.contents (sampleArguments "r/rust").configPath
      (sampleFile sampleMarked) = .ok sampleMarked := by decide +kernel
  have held : Configuration.Holds sampleMarked
      [{ subreddit := "r/rust" }, { subreddit := " rust" }] :=
    Configuration.ofToml_eq_ok_iff (c := ⟨[{ subreddit := "r/rust" }, { subreddit := " rust" }]⟩).mp
      (by decide +kernel)
  have accepted : Configuration.parse sampleMarked =
      .ok ⟨[{ subreddit := "rust" }, { subreddit := "rust" }]⟩ := by
    decide +kernel
  exact ⟨rfl, read, held, accepted,
    (honors_iff rfl read held (by simp) accepted).mpr (by decide)⟩

def sampleSpaced : String :=
  "[[subreddits]]\nsubreddit = \" rust \"\nrequest-url-template = \"nope\"\n"

set_option maxRecDepth 4000 in
/-- A name with blanks around it is configured, and asked for as it is written it is not found. -/
theorem not_honors_of_spaced :
    (sampleArguments " rust ").subreddit = some " rust " ∧
      Configuration.contents (sampleArguments " rust ").configPath (sampleFile sampleSpaced) =
        .ok sampleSpaced ∧
      Configuration.Holds sampleSpaced
        [{ subreddit := " rust ", requestUrlTemplate := some "nope" }] ∧
      Configuration.parse sampleSpaced =
        .ok ⟨[{ subreddit := "rust", requestUrlTemplate := some "nope" }]⟩ ∧
      (run (sampleArguments " rust ") (sampleFile sampleSpaced) {}).errorLines = [unmatched] ∧
      ¬ Honors (sampleArguments " rust ") (sampleFile sampleSpaced)
        [{ subreddit := " rust ", requestUrlTemplate := some "nope" }]
        ⟨[{ subreddit := "rust", requestUrlTemplate := some "nope" }]⟩ " rust " := by
  have answer : (run (sampleArguments " rust ") (sampleFile sampleSpaced) {}).errorLines =
      [unmatched] := by decide +kernel
  refine ⟨rfl, by decide +kernel, ?_, by decide +kernel, answer, fun h => ?_⟩
  · exact Configuration.ofToml_eq_ok_iff
      (c := ⟨[{ subreddit := " rust ", requestUrlTemplate := some "nope" }]⟩).mp (by decide +kernel)
  · exact h.matched {} (by rw [answer]; exact List.mem_singleton_self _)

end Outcome

end ForumDigest
