import ForumDigest.Proofs.Feed.Basic
import ForumDigest.Proofs.Post.Order
import ForumDigest.Proofs.Post.Rating
import Mathlib.Data.List.Perm.Subperm

namespace ForumDigest

open Http

namespace Post

/-- `kept` are the `n` most engaging ones of the posts `ns`. -/
structure MostEngaging (n : Nat) (ns kept : List Post) : Prop where
  length : kept.length = min n ns.length
  among : (kept.map unrated).Subperm (ns.map unrated)
  /-- Each is rated against all of the posts, kept or not. -/
  rated : ∀ p ∈ kept, p.engagement = Engagement.of (Engagement.averages ns) p.commentCount p.score
  descending : kept.Pairwise fun p q => q.engagement.rank ≤ p.engagement.rank
  omitted : ∃ rest, (kept ++ rest).Perm (rate ns) ∧
    ∀ p ∈ kept, ∀ q ∈ rest, q.engagement.rank ≤ p.engagement.rank
  /-- Of equally engaging posts the first ones are kept, in their order. -/
  first : ∀ x, kept.filter (·.engagement = x) <+: (rate ns).filter (·.engagement = x)

theorem mostEngaging_take (n : Nat) (ns : List Post) :
    MostEngaging n ns ((sortByEngagement (rate ns)).take n) := by
  have perm := sortByEngagement_perm (rate ns)
  have split := List.take_append_drop n (sortByEngagement (rate ns))
  have ordered := pairwise_sortByEngagement (rate ns)
  rw [← split, List.pairwise_append] at ordered
  obtain ⟨descending, -, omitted⟩ := ordered
  constructor
  · rw [List.length_take, perm.length_eq, rate, List.length_map]
  · rw [← map_unrated_rate ns]
    exact ((List.take_sublist _ _).map unrated).subperm.trans (perm.map unrated).subperm
  · intro p hp
    obtain ⟨q, -, rfl⟩ := List.mem_map.mp (perm.mem_iff.mp (List.mem_of_mem_take hp))
    rfl
  · exact descending
  · exact ⟨_, split.symm ▸ perm, omitted⟩
  · intro x
    rw [← filter_sortByEngagement x (rate ns)]
    exact (List.take_prefix n _).filter _

end Post

inductive Subscription.Shows (s : Subscription) (ns : List Post) : List Post → Prop where
  | first (unsorted : s.extraSort = none) : Shows s ns (ns.take s.limit.toNat)
  | mostEngaging {kept : List Post} (sorted : s.extraSort = some .engagement)
      (best : Post.MostEngaging s.limit.toNat ns kept) : Shows s ns kept

namespace Subscription

theorem shows_select (s : Subscription) (ns : List Post) : s.Shows ns (s.select ns) := by
  unfold select
  cases h : s.extraSort with
  | none => exact .first h
  | some e => exact .mostEngaging h (Post.mostEngaging_take s.limit.toNat ns)

theorem select_nil (s : Subscription) : s.select [] = [] := by
  unfold select
  cases s.extraSort with
  | none => exact List.take_nil
  | some e => simp only [Post.rate, List.map_nil, Post.sortByEngagement, List.mergeSort_nil,
      List.take_nil]

def withLimit (s : Subscription) (n : UInt64) : Subscription := { s with limit := n }

theorem select_withLimit {s : Subscription} {n : UInt64} (h : n ≤ s.limit) (ns : List Post) :
    (s.withLimit n).select ns = (s.select ns).take n.toNat := by
  have least : min n.toNat s.limit.toNat = n.toNat :=
    Nat.min_eq_left (UInt64.le_iff_toNat_le.mp h)
  simp only [select, withLimit, List.take_take, least]

end Subscription

namespace Feed

variable {f : Feed} {c : Client} {l : Listing}

def withLimit (f : Feed) (n : UInt64) : Feed :=
  { f with subscription := f.subscription.withLimit n }

/-- The listing that an update receives, after its token was renewed if need be. -/
def received (f : Feed) (c : Client) : Except Failure Listing :=
  match f.credential with
  | none => (c.askListing f.subscription.query none).1
  | some k =>
    match k.renewed c with
    | (.error e, _, _) => .error e
    | (.ok (), k, c) => (c.askListing f.subscription.query (some k)).1

def listed (f : Feed) (c : Client) (l : Listing) : List Post :=
  l.posts f.subscription.query c.endpoints.webBase

theorem readListing_of_received {q : Query} {k : Option Credential}
    (h : (c.askListing q k).1 = .ok l) :
    (c.readListing q k).1 =
      if l.data.children = [] then .error (.service (.noPostsFound q.subreddit))
      else .ok (l.posts q c.endpoints.webBase) := by
  obtain ⟨rs, sends, -⟩ := c.askListing_sends q k
  unfold Client.readListing
  rcases ha : c.askListing q k with ⟨x, c'⟩
  rw [ha] at h sends
  obtain rfl : x = .ok l := h
  simp only [Client.takePosts, List.isEmpty_iff, ← sends.endpoints]
  split <;> rfl

theorem fetch_of_received (h : f.received c = .ok l) :
    (c.fetch f.subscription.query f.credential).1 =
      if l.data.children = [] then .error (.service (.noPostsFound f.subreddit))
      else .ok (f.listed c l) := by
  unfold received at h
  cases hk : f.credential with
  | none =>
    rw [hk] at h
    exact readListing_of_received h
  | some k =>
    simp only [hk] at h
    obtain ⟨rs, sends⟩ := c.renewed_sends k
    simp only [Client.fetch]
    rcases hr : k.renewed c with ⟨e | _, k', c'⟩
    · rw [hr] at h
      cases h
    · rw [hr] at h sends
      have read := readListing_of_received h
      rw [sends.endpoints] at read
      exact read

/-- What an update makes of a listing that it received. -/
structure Presents (f : Feed) (c : Client) (l : Listing) : Prop where
  empty : l.data.children = [] →
    (f.update c).1 = .error (.service (.noPostsFound f.subreddit))
  shown : l.data.children ≠ [] →
    ∃ kept, (f.update c).1 = .ok kept ∧ f.subscription.Shows (f.listed c l) kept
  pinned : l.data.children ≠ [] → (∀ s ∈ l.submissions, s.isPinned = true) →
    (f.update c).1 = .ok []
  limited : ∀ n ≤ f.subscription.limit,
    ((f.withLimit n).update c).1 = (f.update c).1.map (·.take n.toNat)

theorem update_eq (f : Feed) (c : Client) :
    (f.update c).1 =
      (c.fetch f.subscription.query f.credential).1.map f.subscription.select := rfl

/-- An update shows what the subscription selects of the listing. -/
theorem update_of_received (h : f.received c = .ok l) : f.Presents c l := by
  have fetched := fetch_of_received h
  constructor
  · intro empty
    rw [update_eq, fetched, if_pos empty]
    rfl
  · intro nonempty
    rw [update_eq, fetched, if_neg nonempty]
    exact ⟨_, rfl, f.subscription.shows_select _⟩
  · intro nonempty pinned
    have none : f.listed c l = [] := by
      simpa [listed, Listing.posts] using pinned
    rw [update_eq, fetched, if_neg nonempty, none]
    exact congrArg Except.ok f.subscription.select_nil
  · intro n hn
    rw [update_eq, update_eq]
    change ((c.fetch f.subscription.query f.credential).1).map _ = _
    cases (c.fetch f.subscription.query f.credential).1 with
    | error e => rfl
    | ok ns => exact congrArg Except.ok (Subscription.select_withLimit hn ns)

def sampleSubmission (title : String) (ups : Int32) (numComments : UInt32) : Submission :=
  { title, ups, numComments }

def sampleListing : Listing where
  data := { children :=
    [{ data := sampleSubmission "quiet" 1 1 }, { data := sampleSubmission "lively" 2 2 },
      { data := sampleSubmission "busy" 3 3 }] }

def sampleListingText : String :=
  "\x7b\"data\":\x7b\"children\":[" ++
    "\x7b\"data\":\x7b\"title\":\"quiet\",\"ups\":1,\"num_comments\":1\x7d\x7d," ++
    "\x7b\"data\":\x7b\"title\":\"lively\",\"ups\":2,\"num_comments\":2\x7d\x7d," ++
    "\x7b\"data\":\x7b\"title\":\"busy\",\"ups\":3,\"num_comments\":3\x7d\x7d]\x7d\x7d"

def sampleFeed : Feed :=
  ofSubscription { subreddit := "lean", extraSort := some .engagement, limit := 2 }

def sampleClient : Client :=
  { endpoints := .rootedAt "http://forum.test"
    awaited := [.response { body := sampleListingText }] }

def samplePost (s : Submission) (engagement : Binary64) : Post :=
  { Post.ofSubmission sampleFeed.subscription.query sampleClient.endpoints.webBase s with
    engagement }

theorem rate_listed_sample :
    Post.rate (sampleFeed.listed sampleClient sampleListing) =
      [samplePost (sampleSubmission "quiet" 1 1) ⟨0x3FE0000000000000⟩,
        samplePost (sampleSubmission "lively" 2 2) ⟨0x3FF0000000000000⟩,
        samplePost (sampleSubmission "busy" 3 3) ⟨0x3FF8000000000000⟩] := by
  have quiet :
      Engagement.of (Engagement.averages (sampleFeed.listed sampleClient sampleListing)) 1 1 =
        ⟨0x3FE0000000000000⟩ := by decide +kernel
  have lively :
      Engagement.of (Engagement.averages (sampleFeed.listed sampleClient sampleListing)) 2 2 =
        ⟨0x3FF0000000000000⟩ := by decide +kernel
  have busy :
      Engagement.of (Engagement.averages (sampleFeed.listed sampleClient sampleListing)) 3 3 =
        ⟨0x3FF8000000000000⟩ := by decide +kernel
  rw [← quiet, ← lively, ← busy]
  rfl

set_option maxRecDepth 4000 in
/-- The two most engaging of three posts are shown, each rated against all of them. -/
theorem update_of_received_of_rising :
    sampleFeed.received sampleClient = .ok sampleListing ∧
      sampleFeed.Presents sampleClient sampleListing ∧
      (sampleFeed.update sampleClient).1 =
        .ok [samplePost (sampleSubmission "busy" 3 3) ⟨0x3FF8000000000000⟩,
          samplePost (sampleSubmission "lively" 2 2) ⟨0x3FF0000000000000⟩] := by
  have received : sampleFeed.received sampleClient = .ok sampleListing := by decide +kernel
  refine ⟨received, update_of_received received, ?_⟩
  rw [update_eq, fetch_of_received received, if_neg (by simp [sampleListing])]
  change Except.ok ((Post.sortByEngagement (Post.rate _)).take 2) = _
  rw [rate_listed_sample]
  simp [Post.sortByEngagement, List.mergeSort, List.MergeSort.Internal.splitInTwo, samplePost,
    Binary64.rank, Binary64.isNegative, Binary64.magnitude]

end Feed

end ForumDigest
