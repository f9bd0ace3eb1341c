import ForumDigest.Identity
import ForumDigest.Query

namespace ForumDigest

def defaultLimit : UInt64 := 15

structure Subscription where
  subreddit : String := ""
  sortBy : SortOrder := .hot
  topPeriod : TopPeriod := .day
  search : Option String := none
  extraSort : Option ExtraSort := none
  commentsUrlTemplate : Option String := none
  requestUrlTemplate : Option String := none
  showFlairs : Bool := false
  limit : UInt64 := defaultLimit
  identity : Option Identity := none
  deriving DecidableEq, Repr, Inhabited

def Subscription.query (s : Subscription) : Query :=
  { subreddit := s.subreddit
    sortBy := s.sortBy
    topPeriod := s.topPeriod
    search := s.search
    commentsUrlTemplate := s.commentsUrlTemplate
    requestUrlTemplate := s.requestUrlTemplate
    showFlairs := s.showFlairs }

structure Configuration where
  subscriptions : List Subscription := []
  deriving DecidableEq, Repr, Inhabited

end ForumDigest
