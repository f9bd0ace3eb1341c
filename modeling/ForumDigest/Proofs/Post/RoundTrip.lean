import ForumDigest.Listing.Posts
import ForumDigest.Post.Json
import ForumDigest.Proofs.Calendar.Rfc3339
import ForumDigest.Proofs.Json.Real
import ForumDigest.Proofs.Post.Order

namespace ForumDigest

open Json

structure Instant.IsWhole (t : Instant) : Prop where
  nanos : t.nanos = 0
  least : Date.leastYear ≤ t.date.year
  greatest : t.date.year ≤ Date.greatestYear

theorem Instant.IsWhole.read_text {t : Instant} (h : t.IsWhole) :
    Rfc3339.read (Rfc3339.text t) = .ok t :=
  Rfc3339.read_text ((Instant.inRange_iff t).mpr ⟨h.least, h.greatest⟩) (by rw [h.nanos]; decide)

theorem Instant.isWhole_of_ofSeconds? {n : Int} {t : Instant} (h : ofSeconds? n = some t) :
    t.IsWhole := by
  unfold ofSeconds? at h
  split at h
  · rename_i range
    obtain rfl := Option.some.inj h
    obtain ⟨least, greatest⟩ := (Instant.inRange_iff ⟨n, 0⟩).mp range
    exact ⟨rfl, least, greatest⟩
  · cases h

theorem Instant.isWhole_epoch : epoch.IsWhole := isWhole_of_ofSeconds? (n := 0) (by decide)

theorem Submission.isWhole_timePosted (s : Submission) : s.timePosted.IsWhole := by
  unfold timePosted
  cases h : Instant.ofSeconds? s.created.truncated with
  | none => exact Instant.isWhole_epoch
  | some t => exact Instant.isWhole_of_ofSeconds? h

theorem Instant.exact_read : Instant.read.Exact := (exact_readText _).refine _

theorem Instant.IsWhole.restores {t : Instant} (h : t.IsWhole) :
    Instant.read.Restores (writeText (Rfc3339.write t)) t := by
  have read : Rfc3339.read (String.ofList (Rfc3339.write t)) = .ok t := h.read_text
  exact (restores_text _ (Rfc3339.write t)).refine (by rw [read])

namespace Post

theorem exact_fields : ExactFields fields :=
  .cons exact_readString <| .cons exact_readString <| .cons exact_readString.option <|
    .cons exact_readString <| .cons exact_readString.option <|
    .cons (exact_readList exact_readString) <| .cons exact_readUInt32 <| .cons exact_readInt32 <|
    .cons exact_readReal <| .cons Instant.exact_read <| .cons exact_readBool .nil

theorem exact_read : Post.read.Exact := exact_readRecord exact_fields _ _

theorem restores {p : Post} (engagement : p.engagement.ReadsBack) (time : p.timePosted.IsWhole) :
    Post.read.Restores p.write p :=
  restores_record "ForumPost" exact_fields (by decide) <|
    .cons (restores_string p.title) <| .cons (restores_string p.discussionUrl) <|
    .cons (restores_optional p.targetUrl) <| .cons (restores_string p.targetUrlDomain) <|
    .cons (restores_optional p.thumbnailUrl) <|
    .cons (restores_list exact_readString fun t _ => restores_string t) <|
    .cons (restores_uint32 p.commentCount) <| .cons (restores_int32 p.score) <|
    .cons engagement.restores <| .cons time.restores <| .cons (restores_bool p.isCrosspost) .nil

/-- The posts of a listing, rated and sorted any number of times. -/
inductive Produced (q : Query) (webBase : String) (l : Listing) : List Post → Prop where
  | posts : Produced q webBase l (l.posts q webBase)
  | rated {ps : List Post} (h : Produced q webBase l ps) : Produced q webBase l (rate ps)
  | sorted {ps : List Post} (h : Produced q webBase l ps) :
    Produced q webBase l (sortByEngagement ps)

variable {q : Query} {webBase : String} {l : Listing} {ps : List Post}

theorem Produced.isWhole (h : Produced q webBase l ps) : ∀ p ∈ ps, p.timePosted.IsWhole := by
  induction h with
  | posts =>
    intro p hp
    obtain ⟨s, -, rfl⟩ := List.mem_map.mp hp
    exact s.isWhole_timePosted
  | rated _ ih =>
    intro p hp
    obtain ⟨o, ho, rfl⟩ := List.mem_map.mp hp
    exact ih o ho
  | sorted _ ih =>
    intro p hp
    exact ih p ((sortByEngagement_perm _).mem_iff.mp hp)

/-- Whatever times posts can have, they are read from their text if their engagement reads back. -/
theorem listOfJson_listToJson (h : Produced q webBase l ps) :
    ((∀ p ∈ ps, p.engagement.ReadsBack) → listOfJson (listToJson ps) = .ok ps) ∧
      (∀ p ∈ ps, p.timePosted.IsWhole) ∧
      ∀ t : Instant, t.IsWhole → Rfc3339.read (Rfc3339.text t) = .ok t := by
  refine ⟨fun engagement => ?_, h.isWhole, fun t => Instant.IsWhole.read_text⟩
  have whole : (readList Post.read).Restores (writeList Post.write ps) ps :=
    restores_list exact_read fun p hp => restores (engagement p hp) (h.isWhole p hp)
  exact whole.decode (exact_readList exact_read)

def sampleDated : Listing where
  data :=
    { children :=
        [ { data :=
              { title := "early", ups := 100, created := ⟨0xC26D1A94A2000000⟩, numComments := 10 } },
          { data := { title := "late", ups := 300, numComments := 30 } } ] }

/-- Both are read back, and so is the first second that can be told. -/
theorem listOfJson_listToJson_of_dated :
    let q : Query := { subreddit := "lean" }
    let ps := sortByEngagement (rate (sampleDated.posts q "https://forum.test"))
    let t : Instant := ⟨Instant.leastSecond, 0⟩
    (Produced q "https://forum.test" sampleDated ps ∧ (∀ p ∈ ps, p.engagement.ReadsBack) ∧
        t.IsWhole) ∧
      listOfJson (listToJson ps) = .ok ps ∧ Rfc3339.read (Rfc3339.text t) = .ok t := by
  intro q ps t
  have produced : Produced q "https://forum.test" sampleDated ps := .sorted (.rated .posts)
  have engagement : ∀ p ∈ ps, p.engagement.ReadsBack := by
    have rated : ∀ p ∈ rate (sampleDated.posts q "https://forum.test"), p.engagement.ReadsBack := by
      decide +kernel
    exact fun p hp => rated p ((sortByEngagement_perm _).mem_iff.mp hp)
  have first : t.IsWhole := Instant.isWhole_of_ofSeconds? (n := Instant.leastSecond) (by decide)
  obtain ⟨restored, -, told⟩ := listOfJson_listToJson produced
  exact ⟨⟨produced, engagement, first⟩, restored engagement, told t first⟩

end Post

end ForumDigest
