import ForumDigest.Client.Authentication
import ForumDigest.Listing.Json
import ForumDigest.Listing.Posts

namespace ForumDigest

open Http

/-- The name under which listings are read without a token: the forum soon turns away others. -/
def browserAgent : String :=
  "Mozilla/5.0 (Windows NT 10.0; Win64; x64; rv:130.0) Gecko/20100101 Firefox/130.0"

namespace Credential

def renewed (c : Client) (k : Credential) : Except Failure Unit × Credential × Client :=
  if k.needsRenewal c.now then (c.note [.tokenExpired]).authenticate k else (.ok (), k, c)

def headers (k : Credential) : Headers :=
  [("authorization", "bearer " ++ k.token), ("user-agent", k.identity.agent)]

end Credential

def Query.target (q : Query) (base : String) : Except Url.ParseError Url := do
  Url.parse (← q.requestUrl base)

namespace Client

def access (c : Client) (k : Option Credential) : String × Headers :=
  match k.filter Credential.hasToken with
  | some k => (c.endpoints.oauthBase, k.headers)
  | none => (c.endpoints.publicBase, [("user-agent", browserAgent)])

/-- Asks for the listing of a query, with the token of `k` whether expired or not. -/
def askListing (c : Client) (q : Query) (k : Option Credential) : Except Failure Listing × Client :=
  let (base, headers) := c.access k
  match q.target base with
  | .error e => (.error (.url e), c)
  | .ok url =>
    (c.note [.fetching q.subreddit url]).ask Listing.read (Request.prepare .get url headers "")

/-- The posts of a listing. One without any entry, pinned or not, is a failure. -/
def takePosts (c : Client) (q : Query) (l : Listing) : Except Failure (List Post) × Client :=
  if l.data.children.isEmpty then (.error (.service (.noPostsFound q.subreddit)), c)
  else
    let posts := l.posts q c.endpoints.webBase
    (.ok posts, c.note (l.pinned.map (.skipping ·.id) ++ [.retrieved posts.length q.subreddit]))

def readListing (c : Client) (q : Query) (k : Option Credential) :
    Except Failure (List Post) × Client :=
  match c.askListing q k with
  | (.error f, c) => (.error f, c)
  | (.ok l, c) => c.takePosts q l

/-- Reads the posts that a query asks for. The credential changes only if its token is renewed. -/
def fetch (c : Client) (q : Query) (k : Option Credential) :
    Except Failure (List Post) × Option Credential × Client :=
  match k with
  | none =>
    let (posts, c) := c.readListing q none
    (posts, none, c)
  | some k =>
    match k.renewed c with
    | (.error f, k, c) => (.error f, some k, c)
    | (.ok (), k, c) =>
      let (posts, c) := c.readListing q (some k)
      (posts, some k, c)

end Client

end ForumDigest
