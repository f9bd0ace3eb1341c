import ForumDigest.Listing.Posts

namespace ForumDigest

variable {q : Query} {webBase : String} {s : Submission} {p : Post}

/-- Where comments are read: at their place in the template, or else behind the permalink. -/
inductive Query.Comments (q : Query) (webBase subreddit id permalink : String) : String → Prop where
  | templated {template : String} (h : q.commentsUrlTemplate = some template) :
      Comments q webBase subreddit id permalink
        (Template.fillComments template subreddit id permalink)
  | untemplated (h : q.commentsUrlTemplate = none) :
      Comments q webBase subreddit id permalink (webBase ++ permalink)

def Submission.Repeats (s : Submission) (parent : Parent) : Prop :=
  ∃ others, s.crosspostParents = some (parent :: others)

/-- The post `p` tells what the submission `s` is. -/
structure Post.Depicts (q : Query) (webBase : String) (s : Submission) (p : Post) : Prop where
  title : p.title = Text.Entity.decode s.title
  discussion : q.Comments webBase q.subreddit s.id s.permalink p.discussionUrl
  untargeted : p.targetUrl = none ↔ s.isSelf = true ∧ ∀ parent, ¬ s.Repeats parent
  linked : (∀ parent, ¬ s.Repeats parent) →
    p.targetUrlDomain = s.domain ∧ (s.isSelf = false → p.targetUrl = some s.url)
  crossposted : p.isCrosspost = true ↔ ∃ parent, s.Repeats parent
  /-- A crosspost leads to the post that it repeats, whatever else it links to. -/
  repeated : ∀ parent, s.Repeats parent → p.targetUrlDomain = "r/" ++ parent.subreddit ∧
    ∃ url, p.targetUrl = some url ∧
      q.Comments webBase parent.subreddit parent.id parent.permalink url
  flaired : ∀ flair, p.tags = [flair] ↔
    q.showFlairs = true ∧ s.linkFlairText = some flair ∧ flair ≠ ""
  unflaired : (∀ flair, p.tags ≠ [flair]) → p.tags = []
  pictured : ∀ url, p.thumbnailUrl = some url ↔ ∃ raw, s.thumbnail = some raw ∧ raw ≠ "" ∧
    raw ∉ ["self", "default", "nsfw"] ∧ url = Text.Entity.decode raw
  commentCount : p.commentCount = s.numComments
  score : p.score = s.ups
  unrated : p.engagement = .zero
  posted : Instant.ofSeconds? s.created.truncated = some p.timePosted ∨
    Instant.ofSeconds? s.created.truncated = none ∧ p.timePosted = .epoch

/-- The posts tell the entries one after the other, but for those that are pinned. -/
inductive Listing.Tells (q : Query) (webBase : String) : List ListingEntry → List Post → Prop where
  | nil : Tells q webBase [] []
  | skip {e : ListingEntry} {es : List ListingEntry} {ps : List Post}
      (pinned : e.data.stickied = true ∨ e.data.pinned = true) (rest : Tells q webBase es ps) :
      Tells q webBase (e :: es) ps
  | tell {e : ListingEntry} {es : List ListingEntry} {p : Post} {ps : List Post}
      (loose : e.data.stickied = false ∧ e.data.pinned = false)
      (depicts : p.Depicts q webBase e.data) (rest : Tells q webBase es ps) :
      Tells q webBase (e :: es) (p :: ps)

theorem Query.comments_iff {subreddit id permalink url : String} :
    q.Comments webBase subreddit id permalink url ↔
      q.commentsUrl webBase subreddit id permalink = url := by
  unfold Query.commentsUrl
  constructor
  · rintro (h | h) <;> rw [h]
  · rintro rfl
    cases h : q.commentsUrlTemplate with
    | some template => exact .templated h
    | none => exact .untemplated h

namespace Submission

theorem parent?_eq_some_iff {parent : Parent} : s.parent? = some parent ↔ s.Repeats parent := by
  unfold parent? Repeats
  rcases s.crosspostParents with _ | _ | ⟨first, others⟩
  · simp
  · simp
  · simp [eq_comm]

theorem parent?_eq_none_iff : s.parent? = none ↔ ∀ parent, ¬ s.Repeats parent := by
  simp only [← parent?_eq_some_iff, Option.eq_none_iff_forall_not_mem, Option.mem_def]

theorem tags_eq_singleton_iff {flair : String} :
    s.tags q = [flair] ↔ q.showFlairs = true ∧ s.linkFlairText = some flair ∧ flair ≠ "" := by
  unfold tags
  cases q.showFlairs with
  | false => simp
  | true =>
    cases s.linkFlairText with
    | none => simp
    | some t =>
      by_cases empty : t = ""
      · simp [Option.filter, empty]
      · simp [Option.filter, empty]
        exact fun he => he ▸ empty

theorem tags_eq_nil (h : ∀ flair, s.tags q ≠ [flair]) : s.tags q = [] := by
  unfold tags at h ⊢
  split at h
  · rename_i shown
    rcases ht : s.linkFlairText.filter (· ≠ "") with _ | t
    · simp [shown]
    · exact absurd (by rw [ht]; rfl) (h t)
  · rename_i hidden
    rw [if_neg hidden]

theorem thumbnailUrl_eq_some_iff {url : String} :
    s.thumbnailUrl = some url ↔ ∃ raw, s.thumbnail = some raw ∧ raw ≠ "" ∧
      raw ∉ ["self", "default", "nsfw"] ∧ url = Text.Entity.decode raw := by
  unfold thumbnailUrl placeholders
  simp only [Option.map_eq_some_iff, Option.filter_eq_some_iff, Bool.and_eq_true,
    decide_eq_true_iff, Bool.not_eq_true', List.contains_eq_mem, decide_eq_false_iff_not, and_assoc,
    @eq_comm _ url]

theorem timePosted_spec (s : Submission) :
    Instant.ofSeconds? s.created.truncated = some s.timePosted ∨
      Instant.ofSeconds? s.created.truncated = none ∧ s.timePosted = .epoch := by
  unfold timePosted
  cases Instant.ofSeconds? s.created.truncated with
  | some t => exact .inl rfl
  | none => exact .inr ⟨rfl, rfl⟩

end Submission

namespace Post

theorem depicts_ofSubmission (q : Query) (webBase : String) (s : Submission) :
    (ofSubmission q webBase s).Depicts q webBase s where
  title := rfl
  discussion := Query.comments_iff.mpr rfl
  untargeted := by
    rw [← Submission.parent?_eq_none_iff]
    unfold ofSubmission
    cases s.parent? <;> simp
  linked := by
    rw [← Submission.parent?_eq_none_iff]
    intro alone
    simp +contextual [ofSubmission, alone]
  crossposted := by
    simp only [ofSubmission, Option.isSome_iff_exists, Submission.parent?_eq_some_iff]
  repeated := by
    intro parent repeats
    have comments : q.Comments webBase parent.subreddit parent.id parent.permalink
        (q.parentUrl webBase parent) := Query.comments_iff.mpr rfl
    simpa [ofSubmission, Submission.parent?_eq_some_iff.mpr repeats] using comments
  flaired := fun _ => Submission.tags_eq_singleton_iff
  unflaired := Submission.tags_eq_nil
  pictured := fun _ => Submission.thumbnailUrl_eq_some_iff
  commentCount := rfl
  score := rfl
  unrated := rfl
  posted := s.timePosted_spec

namespace Depicts

variable {p' : Post}

theorem targetUrl_eq (h : p.Depicts q webBase s) (h' : p'.Depicts q webBase s) :
    p.targetUrl = p'.targetUrl := by
  by_cases crosspost : ∃ parent, s.Repeats parent
  · obtain ⟨parent, repeats⟩ := crosspost
    obtain ⟨-, url, target, comments⟩ := h.repeated parent repeats
    obtain ⟨-, url', target', comments'⟩ := h'.repeated parent repeats
    rw [target, target', ← Query.comments_iff.mp comments, ← Query.comments_iff.mp comments']
  · have alone := not_exists.mp crosspost
    cases self : s.isSelf with
    | true => rw [h.untargeted.mpr ⟨self, alone⟩, h'.untargeted.mpr ⟨self, alone⟩]
    | false => rw [(h.linked alone).2 self, (h'.linked alone).2 self]

theorem targetUrlDomain_eq (h : p.Depicts q webBase s) (h' : p'.Depicts q webBase s) :
    p.targetUrlDomain = p'.targetUrlDomain := by
  by_cases crosspost : ∃ parent, s.Repeats parent
  · obtain ⟨parent, repeats⟩ := crosspost
    rw [(h.repeated parent repeats).1, (h'.repeated parent repeats).1]
  · have alone := not_exists.mp crosspost
    rw [(h.linked alone).1, (h'.linked alone).1]

theorem tags_eq (h : p.Depicts q webBase s) (h' : p'.Depicts q webBase s) : p.tags = p'.tags := by
  by_cases flaired : ∃ flair, p.tags = [flair]
  · obtain ⟨flair, tags⟩ := flaired
    rw [tags, (h'.flaired flair).mpr ((h.flaired flair).mp tags)]
  · have unflaired := not_exists.mp flaired
    rw [h.unflaired unflaired, h'.unflaired fun flair tags =>
      unflaired flair ((h.flaired flair).mpr ((h'.flaired flair).mp tags))]

theorem thumbnailUrl_eq (h : p.Depicts q webBase s) (h' : p'.Depicts q webBase s) :
    p.thumbnailUrl = p'.thumbnailUrl :=
  Option.ext fun url => (h.pictured url).trans (h'.pictured url).symm

theorem timePosted_eq (h : p.Depicts q webBase s) (h' : p'.Depicts q webBase s) :
    p.timePosted = p'.timePosted := by
  obtain told | ⟨untold, epoch⟩ := h.posted
  · obtain told' | ⟨untold', -⟩ := h'.posted
    · exact Option.some.inj (told.symm.trans told')
    · cases told.symm.trans untold'
  · obtain told' | ⟨-, epoch'⟩ := h'.posted
    · cases told'.symm.trans untold
    · rw [epoch, epoch']

theorem eq (h : p.Depicts q webBase s) (h' : p'.Depicts q webBase s) : p = p' := by
  have discussion := (Query.comments_iff.mp h.discussion).symm.trans
    (Query.comments_iff.mp h'.discussion)
  have crosspost : p.isCrosspost = p'.isCrosspost :=
    Bool.eq_iff_iff.mpr (h.crossposted.trans h'.crossposted.symm)
  have title := h.title.trans h'.title.symm
  have count := h.commentCount.trans h'.commentCount.symm
  have score := h.score.trans h'.score.symm
  have unrated := h.unrated.trans h'.unrated.symm
  have target := h.targetUrl_eq h'
  have domain := h.targetUrlDomain_eq h'
  have tags := h.tags_eq h'
  have thumbnail := h.thumbnailUrl_eq h'
  have time := h.timePosted_eq h'
  cases p
  cases p'
  simp_all only

end Depicts

end Post

namespace Listing

def ofEntries (es : List ListingEntry) : Listing := { data := { children := es } }

def unpinned (l : Listing) : List Submission :=
  l.submissions.filter fun s => !s.stickied && !s.pinned

theorem posts_eq_map (q : Query) (webBase : String) (l : Listing) :
    l.posts q webBase = l.unpinned.map (Post.ofSubmission q webBase) := by
  simp only [posts, unpinned, Submission.isPinned, Bool.not_or]

theorem tells_posts (q : Query) (webBase : String) (es : List ListingEntry) :
    Tells q webBase es ((ofEntries es).posts q webBase) := by
  induction es with
  | nil => exact .nil
  | cons e es ih =>
    cases pinned : e.data.isPinned with
    | true =>
      have skipped : (ofEntries (e :: es)).posts q webBase = (ofEntries es).posts q webBase := by
        simp [posts, ofEntries, submissions, pinned]
      rw [skipped]
      exact .skip (by simpa [Submission.isPinned] using pinned) ih
    | false =>
      have told : (ofEntries (e :: es)).posts q webBase =
          Post.ofSubmission q webBase e.data :: (ofEntries es).posts q webBase := by
        simp [posts, ofEntries, submissions, pinned]
      rw [told]
      exact .tell (by simpa [Submission.isPinned] using pinned) (Post.depicts_ofSubmission _ _ _) ih

theorem Tells.eq {es : List ListingEntry} {ps ps' : List Post} (h : Tells q webBase es ps)
    (h' : Tells q webBase es ps') : ps = ps' := by
  induction h generalizing ps' with
  | nil =>
    cases h'
    rfl
  | skip pinned _ ih =>
    cases h' with
    | skip _ rest => exact ih rest
    | tell loose => simp [loose] at pinned
  | tell loose depicts _ ih =>
    cases h' with
    | skip pinned => simp [loose] at pinned
    | tell _ depicts' rest => rw [depicts.eq depicts', ih rest]

/-- How a listing comes into posts. -/
structure Faithful (q : Query) (webBase : String) (l : Listing) : Prop where
  told : ∀ ps, l.posts q webBase = ps ↔ Tells q webBase l.data.children ps
  joined : ∀ before after, l.data.children = before ++ after → l.posts q webBase =
    (ofEntries before).posts q webBase ++ (ofEntries after).posts q webBase
  alone : ∀ (l' : Listing) (i : Nat), l.unpinned[i]? = l'.unpinned[i]? →
    (l.posts q webBase)[i]? = (l'.posts q webBase)[i]?

/-- Every listing is told entry by entry, in order and in full. -/
theorem posts_faithful (q : Query) (webBase : String) (l : Listing) : l.Faithful q webBase where
  told := by
    intro ps
    have tells : Tells q webBase l.data.children (l.posts q webBase) :=
      tells_posts q webBase l.data.children
    constructor
    · rintro rfl
      exact tells
    · exact tells.eq
  joined := by
    intro before after split
    simp only [posts, submissions, ofEntries, split, List.map_append, List.filter_append]
  alone := by
    intro l' i same
    rw [posts_eq_map, posts_eq_map, List.getElem?_map, List.getElem?_map, same]

end Listing

end ForumDigest
