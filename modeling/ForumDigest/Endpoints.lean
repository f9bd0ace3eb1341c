namespace ForumDigest

structure Endpoints where
  publicBase : String := "https://reddit.com"
  oauthBase : String := "https://oauth.reddit.com"
  webBase : String := "https://www.reddit.com"
  tokenUrl : String := "https://www.reddit.com/api/v1/access_token"
  deriving DecidableEq, Repr, Inhabited

/-- One server for everything but permalinks, below `root` without its trailing slashes. -/
def Endpoints.rootedAt (root : String) : Endpoints :=
  let base := String.ofList (root.toList.reverse.dropWhile (· == '/')).reverse
  { publicBase := base
    oauthBase := base ++ "/oauth"
    tokenUrl := base ++ "/api/v1/access_token" }

end ForumDigest
