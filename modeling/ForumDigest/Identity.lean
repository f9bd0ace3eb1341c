namespace ForumDigest

structure Identity where
  clientId : String := ""
  clientSecret : String := ""
  username : String := ""
  password : String := ""
  userAgent : String := ""
  deriving DecidableEq, Repr, Inhabited

namespace Identity

def isComplete (i : Identity) : Bool :=
  i.clientId ≠ "" && i.clientSecret ≠ "" && i.username ≠ "" && i.password ≠ ""

def agent (i : Identity) : String :=
  if i.userAgent = "" then "subreddit-feed/0.1.0 by " ++ i.username else i.userAgent

end Identity

end ForumDigest
