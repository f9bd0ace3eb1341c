import ForumDigest.Binary64.Basic

namespace ForumDigest

structure Parent where
  id : String := ""
  subreddit : String := ""
  permalink : String := ""
  deriving DecidableEq, Repr, Inhabited

/-- One post as it is submitted: a text of its own, a link, or a crosspost. -/
structure Submission where
  id : String := ""
  title : String := ""
  ups : Int32 := 0
  url : String := ""
  created : Binary64 := .zero
  numComments : UInt32 := 0
  domain : String := ""
  permalink : String := ""
  stickied : Bool := false
  pinned : Bool := false
  isSelf : Bool := false
  thumbnail : Option String := none
  linkFlairText : Option String := none
  crosspostParents : Option (List Parent) := none
  deriving DecidableEq, Repr, Inhabited

structure ListingEntry where
  kind : String := ""
  data : Submission := {}
  deriving DecidableEq, Repr, Inhabited

structure ListingPage where
  children : List ListingEntry := []
  after : Option String := none
  before : Option String := none
  deriving DecidableEq, Repr, Inhabited

/-- A listing as the forum serves it. Fields that the forum leaves out have their empty value. -/
structure Listing where
  kind : String := ""
  data : ListingPage := {}
  deriving DecidableEq, Repr, Inhabited

def Listing.submissions (l : Listing) : List Submission := l.data.children.map (·.data)

end ForumDigest
