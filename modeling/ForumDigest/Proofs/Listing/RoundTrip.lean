import ForumDigest.Listing.Posts
import ForumDigest.Proofs.Json.Real
import ForumDigest.Proofs.Listing.Null

namespace ForumDigest

open Json

theorem Parent.restores (p : Parent) : Parent.read.Restores p.write p :=
  restores_record "CrosspostParent" exact_fields (by decide) <|
    .cons (restores_string p.id) <| .cons (restores_string p.subreddit) <|
    .cons (restores_string p.permalink) .nil

theorem Submission.restores {s : Submission} (h : s.created.ReadsBack) :
    Submission.read.Restores s.write s := by
  have parents (ps : List Parent) : (readList Parent.read).Restores (writeList Parent.write ps) ps :=
    restores_list Parent.exact_read fun p _ => p.restores
  exact restores_record "RedditPostData" exact_fields (by decide) <|
    .cons (restores_string s.id) <| .cons (restores_string s.title) <|
    .cons (restores_int32 s.ups) <| .cons (restores_string s.url) <| .cons h.restores <|
    .cons (restores_uint32 s.numComments) <| .cons (restores_string s.domain) <|
    .cons (restores_string s.permalink) <| .cons (restores_bool s.stickied) <|
    .cons (restores_bool s.pinned) <| .cons (restores_bool s.isSelf) <|
    .cons (restores_optional s.thumbnail) <| .cons (restores_optional s.linkFlairText) <|
    .cons (restores_option (fun ps _ => parents ps) fun ps => writeList_ne_null Parent.write ps) .nil

theorem ListingEntry.restores {e : ListingEntry} (h : e.data.created.ReadsBack) :
    ListingEntry.read.Restores e.write e :=
  restores_record "RedditListingChild" exact_fields (by decide) <|
    .cons (restores_string e.kind) <| .cons (Submission.restores h) .nil

theorem ListingPage.restores {p : ListingPage} (h : ∀ e ∈ p.children, e.data.created.ReadsBack) :
    ListingPage.read.Restores p.write p :=
  restores_record "RedditListingData" exact_fields (by decide) <|
    .cons (restores_list ListingEntry.exact_read fun e he => ListingEntry.restores (h e he)) <|
    .cons (restores_optional p.after) <| .cons (restores_optional p.before) .nil

namespace Listing

theorem restores {l : Listing} (h : ∀ s ∈ l.submissions, s.created.ReadsBack) :
    Listing.read.Restores l.write l := by
  have times : ∀ e ∈ l.data.children, e.data.created.ReadsBack := fun e he =>
    h e.data (List.mem_map_of_mem he)
  exact restores_record "RedditListing" exact_fields (by decide) <|
    .cons (restores_string l.kind) <| .cons (ListingPage.restores times) .nil

/-- The times are the only numbers of a listing that may be lost in its text. -/
theorem ofJson_toJson_of_readsBack (l : Listing) (h : ∀ s ∈ l.submissions, s.created.ReadsBack) :
    ofJson l.toJson = .ok l ∧
      ∀ (q : Query) (webBase : String),
        (ofJson l.toJson).map (posts q webBase) = .ok (l.posts q webBase) := by
  have read : ofJson l.toJson = .ok l := (restores h).decode exact_read
  refine ⟨read, fun q webBase => ?_⟩
  rw [read]
  rfl

def sampleCrossposted : Listing where
  kind := "Listing"
  data :=
    { children :=
        [ { kind := "t3"
            data :=
              { title := "\"a\\b\"\n"
                ups := -2147483648
                created := ⟨0x41D954FC40300000⟩
                numComments := 4294967295
                thumbnail := some ""
                crosspostParents := some [{ id := "p" }, {}] } },
          {} ]
      after := some "null" }

theorem ofJson_toJson_of_readsBack_of_crossposted :
    (∀ s ∈ sampleCrossposted.submissions, s.created.ReadsBack) ∧
      ofJson sampleCrossposted.toJson = .ok sampleCrossposted ∧
      ∀ (q : Query) (webBase : String),
        (ofJson sampleCrossposted.toJson).map (posts q webBase) =
          .ok (sampleCrossposted.posts q webBase) := by
  have times : ∀ s ∈ sampleCrossposted.submissions, s.created.ReadsBack := by decide +kernel
  exact ⟨times, ofJson_toJson_of_readsBack sampleCrossposted times⟩

end Listing

end ForumDigest
