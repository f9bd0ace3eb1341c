import ForumDigest.Proofs.Listing.Posts
import ForumDigest.Proofs.Text.Substitution

namespace ForumDigest

open Text

namespace Template

/-- The placeholders, with what is told of a post. -/
def rules (subreddit postId permalink : String) : List Rule :=
  [ ⟨subredditMark.toList, subreddit.toList⟩,
    ⟨postIdMark.toList, postId.toList⟩,
    ⟨postPathMark.toList, (postPath permalink).toList⟩ ]

/-- The template with its own placeholders filled in, and nothing else, in one pass. -/
def filled (template subreddit postId permalink : String) : String :=
  String.ofList (fillAll (rules subreddit postId permalink) template.toList)

/-- The comments of a post, or of a post that it repeats, are read where one pass over the template
leads. -/
structure FilledOnce (subreddit postId : String) : Prop where
  template : ∀ template permalink,
    fillComments template subreddit postId permalink = filled template subreddit postId permalink
  discussion : ∀ (q : Query) (webBase template : String) (s : Submission),
    q.commentsUrlTemplate = some template → q.subreddit = subreddit → s.id = postId →
      (Post.ofSubmission q webBase s).discussionUrl =
        filled template subreddit postId s.permalink
  target : ∀ (q : Query) (webBase template : String) (s : Submission) (p : Parent),
    q.commentsUrlTemplate = some template → s.Repeats p → p.subreddit = subreddit →
      p.id = postId →
        (Post.ofSubmission q webBase s).targetUrl =
          some (filled template subreddit postId p.permalink)

theorem isMark_subredditMark : IsMark subredditMark.toList :=
  ⟨"SUBREDDIT".toList, by decide⟩

theorem isMark_postIdMark : IsMark postIdMark.toList :=
  ⟨"POST-ID".toList, by decide⟩

theorem isMark_postPathMark : IsMark postPathMark.toList :=
  ⟨"POST-PATH".toList, by decide⟩

variable {subreddit postId permalink : String}

theorem isMark_of_mem_rules {rule : Rule} (h : rule ∈ rules subreddit postId permalink) :
    IsMark rule.pattern := by
  simp only [rules, List.mem_cons, List.not_mem_nil, or_false] at h
  obtain rfl | rfl | rfl := h
  · exact isMark_subredditMark
  · exact isMark_postIdMark
  · exact isMark_postPathMark

theorem toList_fillComments (template subreddit postId permalink : String) :
    (fillComments template subreddit postId permalink).toList =
      substitute postPathMark.toList (postPath permalink).toList
        (substitute postIdMark.toList postId.toList
          (substitute subredditMark.toList subreddit.toList template.toList)) := by
  simp only [fillComments, replaced, String.toList_ofList]

section

variable (subreddit postId permalink)

def leading : List Rule :=
  [⟨subredditMark.toList, subreddit.toList⟩, ⟨postIdMark.toList, postId.toList⟩]

theorem rules_eq : rules subreddit postId permalink =
    leading subreddit postId ++ [⟨postPathMark.toList, (postPath permalink).toList⟩] := rfl

end

theorem isMark_of_mem_leading {rule : Rule} (h : rule ∈ leading subreddit postId) :
    IsMark rule.pattern := by
  have listed : rule ∈ rules subreddit postId "" := List.mem_append_left _ h
  exact isMark_of_mem_rules listed

/-- Two replacements come to one pass if the post's id is its own placeholder, or the subreddit does
not complete that. -/
theorem substitute_substitute
    (id : postId = postIdMark ∨ ¬ Completes postIdMark.toList subreddit.toList) (cs : List Char) :
    substitute postIdMark.toList postId.toList
        (substitute subredditMark.toList subreddit.toList cs) =
      fillAll (leading subreddit postId) cs := by
  have single : ∀ rule ∈ [(⟨subredditMark.toList, subreddit.toList⟩ : Rule)],
      IsMark rule.pattern := by
    simpa using isMark_subredditMark
  rw [substitute_eq subredditMark.toList]
  obtain rfl | inert := id
  · have other : subredditMark.toList ≠ postIdMark.toList := by decide
    have idle := fillAll_idle [⟨subredditMark.toList, subreddit.toList⟩] [] isMark_postIdMark single
      (by simpa using other) cs
    rw [substitute_self isMark_postIdMark.ne_nil]
    exact idle.symm
  · exact substitute_fillAll single isMark_postIdMark (by simpa using inert) _ cs

theorem fillComments_eq (path : ¬ Completes postPathMark.toList subreddit.toList)
    (path' : ¬ Completes postPathMark.toList postId.toList)
    (id : postId = postIdMark ∨ ¬ Completes postIdMark.toList subreddit.toList)
    (template permalink : String) :
    fillComments template subreddit postId permalink =
      filled template subreddit postId permalink := by
  have inert : ∀ rule ∈ leading subreddit postId, ¬ Completes postPathMark.toList rule.value := by
    simpa [leading] using ⟨path, path'⟩
  apply String.toList_injective
  rw [toList_fillComments, filled, String.toList_ofList, substitute_substitute id, rules_eq,
    substitute_fillAll (fun _ => isMark_of_mem_leading) isMark_postPathMark inert]

theorem filledOnce_of_template (h : ∀ template permalink,
    fillComments template subreddit postId permalink =
      filled template subreddit postId permalink) : FilledOnce subreddit postId where
  template := h
  discussion := by
    rintro q webBase template s templated rfl rfl
    have told := (Post.depicts_ofSubmission q webBase s).discussion
    rw [← Query.comments_iff.mp told, Query.commentsUrl, templated]
    exact h template s.permalink
  target := by
    rintro q webBase template s p templated repeats rfl rfl
    obtain ⟨-, url, target, told⟩ := (Post.depicts_ofSubmission q webBase s).repeated p repeats
    rw [target, ← Query.comments_iff.mp told, Query.commentsUrl, templated]
    exact congrArg some (h template p.permalink)

variable {front back : List Char}

theorem fillAll_subredditMark (unclosed : '\x7d' ∉ front) (unopened : '\x7b' ∉ back) :
    fillAll (rules subreddit postId permalink) (front ++ (subredditMark.toList ++ back)) =
      front ++ (subreddit.toList ++ back) :=
  fillAll_around ⟨subredditMark.toList, subreddit.toList⟩ (fun _ => isMark_of_mem_rules)
    isMark_subredditMark rfl unclosed unopened

theorem fillAll_postIdMark (unclosed : '\x7d' ∉ front) (unopened : '\x7b' ∉ back) :
    fillAll (rules subreddit postId permalink) (front ++ (postIdMark.toList ++ back)) =
      front ++ (postId.toList ++ back) :=
  fillAll_around ⟨postIdMark.toList, postId.toList⟩ (fun _ => isMark_of_mem_rules)
    isMark_postIdMark rfl unclosed unopened

namespace FilledOnce

theorem substitute_eq (h : FilledOnce subreddit postId) (cs : List Char) (permalink : String) :
    substitute postPathMark.toList (postPath permalink).toList
        (substitute postIdMark.toList postId.toList
          (substitute subredditMark.toList subreddit.toList cs)) =
      fillAll (rules subreddit postId permalink) cs := by
  have whole := congrArg String.toList (h.template (String.ofList cs) permalink)
  rwa [toList_fillComments, filled, String.toList_ofList, String.toList_ofList] at whole

theorem inert_id (h : FilledOnce subreddit postId) :
    postId = postIdMark ∨ ¬ Completes postIdMark.toList subreddit.toList := by
  refine or_iff_not_imp_right.mpr fun completes => ?_
  obtain ⟨front, back, unclosed, unopened, inside⟩ :=
    (not_not.mp completes).exists_around isMark_postIdMark
  have kept : (postPath postPathMark).toList = postPathMark.toList := by decide
  have passes := h.substitute_eq (front ++ (subredditMark.toList ++ back)) postPathMark
  rw [kept, substitute_self isMark_postPathMark.ne_nil,
    substitute_around isMark_subredditMark _ unclosed unopened,
    fillAll_subredditMark unclosed unopened] at passes
  exact String.toList_injective (eq_of_substitute_eq isMark_postIdMark.ne_nil inside passes)

/-- What a placeholder gives way to does not complete the path's: between a beginning and an end of
that, one pass would leave it standing where the last replacement finds it. -/
theorem inert_path (h : FilledOnce subreddit postId) {mark value : List Char}
    (once : ∀ {front back : List Char}, '\x7d' ∉ front → '\x7b' ∉ back →
      fillAll (rules subreddit postId "") (front ++ (mark ++ back)) = front ++ (value ++ back))
    (twice : ∀ {front back : List Char}, '\x7d' ∉ front → '\x7b' ∉ back →
      substitute postIdMark.toList postId.toList
          (substitute subredditMark.toList subreddit.toList (front ++ (mark ++ back))) =
        front ++ (value ++ back)) :
    ¬ Completes postPathMark.toList value := by
  intro completes
  obtain ⟨front, back, unclosed, unopened, inside⟩ := completes.exists_around isMark_postPathMark
  have unchanged := h.substitute_eq (front ++ (mark ++ back)) ""
  rw [twice unclosed unopened, once unclosed unopened] at unchanged
  have empty := eq_of_substitute_eq isMark_postPathMark.ne_nil inside unchanged
  exact absurd empty (by decide)

theorem inert_path_of_id (h : FilledOnce subreddit postId) :
    ¬ Completes postPathMark.toList postId.toList := by
  refine h.inert_path fillAll_postIdMark fun unclosed unopened => ?_
  rw [substitute_around_other isMark_subredditMark isMark_postIdMark (by decide) _ unclosed
    unopened, substitute_around isMark_postIdMark _ unclosed unopened]

theorem inert_path_of_subreddit (h : FilledOnce subreddit postId) :
    ¬ Completes postPathMark.toList subreddit.toList := by
  refine h.inert_path fillAll_subredditMark fun unclosed unopened => ?_
  rw [substitute_substitute h.inert_id]
  exact fillAll_around ⟨subredditMark.toList, subreddit.toList⟩ (fun _ => isMark_of_mem_leading)
    isMark_subredditMark rfl unclosed unopened

end FilledOnce

/-- Every template is filled in at once for a subreddit and a post if and only if neither of them
completes the placeholder of the path, and the subreddit does not complete that of the post's id. A
post whose id is its own placeholder is the one exception: putting it in changes nothing. -/
theorem filledOnce_iff (subreddit postId : String) :
    FilledOnce subreddit postId ↔
      ¬ Completes postPathMark.toList subreddit.toList ∧
        ¬ Completes postPathMark.toList postId.toList ∧
        (postId = postIdMark ∨ ¬ Completes postIdMark.toList subreddit.toList) := by
  constructor
  · intro h
    exact ⟨h.inert_path_of_subreddit, h.inert_path_of_id, h.inert_id⟩
  · rintro ⟨path, path', id⟩
    exact filledOnce_of_template (fillComments_eq path path' id)

/-- A subreddit that is spelled as the placeholder of the post's id gives way to the id. -/
theorem not_filledOnce_of_placeholder : ¬ FilledOnce "\x7bPOST-ID\x7d" "abc" := by
  intro h
  have told := h.template "https://old.reddit.com/r/\x7bSUBREDDIT\x7d/\x7bPOST-ID\x7d" ""
  have twice : fillComments "https://old.reddit.com/r/\x7bSUBREDDIT\x7d/\x7bPOST-ID\x7d"
      "\x7bPOST-ID\x7d" "abc" "" = "https://old.reddit.com/r/abc/abc" := by
    decide
  have once : filled "https://old.reddit.com/r/\x7bSUBREDDIT\x7d/\x7bPOST-ID\x7d"
      "\x7bPOST-ID\x7d" "abc" "" = "https://old.reddit.com/r/\x7bPOST-ID\x7d/abc" := by
    decide
  rw [twice, once] at told
  exact absurd told (by decide)

end Template

end ForumDigest
