import ForumDigest.Sort
import ForumDigest.Template
import ForumDigest.Url.Form
import ForumDigest.Url.Parser
import ForumDigest.Url.Printer

namespace ForumDigest

structure Query where
  subreddit : String
  sortBy : SortOrder := .hot
  topPeriod : TopPeriod := .day
  search : Option String := none
  commentsUrlTemplate : Option String := none
  requestUrlTemplate : Option String := none
  showFlairs : Bool := false
  deriving DecidableEq, Repr

namespace Url

/-- Adds a pair to the query, which is there from then on. -/
def withPair (u : Url) (pair : String × String) : Url :=
  { u with query := some (String.ofList (Form.append (u.query.getD "").toList pair)) }

end Url

namespace Query

def searchPairs (q : Query) (search : String) : List (String × String) :=
  [("q", search ++ " subreddit:" ++ q.subreddit), ("sort", q.sortBy.name)]

def periodPairs (q : Query) : List (String × String) :=
  if q.sortBy = .top then [("t", q.topPeriod.name)] else []

def location (base : String) (q : Query) : String :=
  match q.search with
  | some _ => base ++ "/search.json"
  | none => base ++ "/r/" ++ q.subreddit ++ "/" ++ q.sortBy.name ++ ".json"

def listingUrl (base : String) (q : Query) : Except Url.ParseError Url := do
  let located ← Url.parse (q.location base)
  let pairs := (q.search.map q.searchPairs).getD [] ++ q.periodPairs
  return pairs.foldl Url.withPair located

/-- The URL to request: the listing's, put into the template if there is one. -/
def requestUrl (base : String) (q : Query) : Except Url.ParseError String := do
  let url ← q.listingUrl base
  return match q.requestUrlTemplate with
    | some template => Template.fillRequest template url.text
    | none => url.text

end Query

end ForumDigest
