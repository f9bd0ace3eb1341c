import ForumDigest.Binary64.Basic
import ForumDigest.Calendar.Instant

namespace ForumDigest

structure Post where
  title : String
  discussionUrl : String
  targetUrl : Option String
  targetUrlDomain : String
  thumbnailUrl : Option String
  tags : List String
  commentCount : UInt32
  score : Int32
  engagement : Binary64
  timePosted : Instant
  isCrosspost : Bool
  deriving DecidableEq, Repr

namespace Post

def empty : Post :=
  { title := "", discussionUrl := "", targetUrl := none, targetUrlDomain := "",
    thumbnailUrl := none, tags := [], commentCount := 0, score := 0, engagement := .zero,
    timePosted := .epoch, isCrosspost := false }

instance : Inhabited Post := ⟨empty⟩

end Post

end ForumDigest
