import ForumDigest.Listing.Basic
import ForumDigest.Post.Basic
import ForumDigest.Query
import ForumDigest.Text.Entity

namespace ForumDigest

namespace Submission

def isPinned (s : Submission) : Bool := s.stickied || s.pinned

/-- The post that a crosspost repeats. -/
def parent? (s : Submission) : Option Parent := (s.crosspostParents.getD []).head?

def placeholders : List String := ["self", "default", "nsfw"]

def thumbnailUrl (s : Submission) : Option String :=
  (s.thumbnail.filter fun t => t ≠ "" && !placeholders.contains t).map Text.Entity.decode

def tags (q : Query) (s : Submission) : List String :=
  if q.showFlairs then (s.linkFlairText.filter (· ≠ "")).toList else []

/-- A whole second, or the epoch where the one told is too far away. -/
def timePosted (s : Submission) : Instant :=
  (Instant.ofSeconds? s.created.truncated).getD .epoch

end Submission

namespace Query

def commentsUrl (q : Query) (webBase subreddit id permalink : String) : String :=
  match q.commentsUrlTemplate with
  | some template => Template.fillComments template subreddit id permalink
  | none => webBase ++ permalink

def parentUrl (q : Query) (webBase : String) (p : Parent) : String :=
  q.commentsUrl webBase p.subreddit p.id p.permalink

end Query

namespace Post

def ofSubmission (q : Query) (webBase : String) (s : Submission) : Post :=
  { title := Text.Entity.decode s.title
    discussionUrl := q.commentsUrl webBase q.subreddit s.id s.permalink
    targetUrl :=
      match s.parent? with
      | some p => some (q.parentUrl webBase p)
      | none => if s.isSelf then none else some s.url
    targetUrlDomain :=
      match s.parent? with
      | some p => "r/" ++ p.subreddit
      | none => s.domain
    thumbnailUrl := s.thumbnailUrl
    tags := s.tags q
    commentCount := s.numComments
    score := s.ups
    engagement := .zero
    timePosted := s.timePosted
    isCrosspost := s.parent?.isSome }

end Post

namespace Listing

def posts (q : Query) (webBase : String) (l : Listing) : List Post :=
  (l.submissions.filter (!·.isPinned)).map (Post.ofSubmission q webBase)

def pinned (l : Listing) : List Submission := l.submissions.filter (·.isPinned)

end Listing

end ForumDigest
