import ForumDigest.Client.Fetch
import ForumDigest.Post.Engagement

namespace ForumDigest

structure Feed where
  subscription : Subscription
  credential : Option Credential
  deriving DecidableEq, Repr

def Subscription.select (s : Subscription) (posts : List Post) : List Post :=
  let ordered := match s.extraSort with
    | some .engagement => Post.sortByEngagement (Post.rate posts)
    | none => posts
  ordered.take s.limit.toNat

namespace Feed

def ofSubscription (s : Subscription) : Feed := ⟨s, s.identity.map Credential.ofIdentity⟩

def subreddit (f : Feed) : String := f.subscription.subreddit

def start (f : Feed) (c : Client) : Except Failure Unit × Feed × Client :=
  match f.credential with
  | none => (.ok (), f, c)
  | some k =>
    if !k.identity.isComplete then (.ok (), f, c)
    else if k.hasToken then (.ok (), f, c.note [.alreadyAuthenticated f.subreddit])
    else
      let (result, k, c) := (c.note [.authenticating f.subreddit]).authenticate k
      (result, { f with credential := some k }, c)

def update (f : Feed) (c : Client) : Except Failure (List Post) × Feed × Client :=
  let (result, credential, c) := c.fetch f.subscription.query f.credential
  (result.map f.subscription.select, { f with credential }, c)

end Feed

end ForumDigest
