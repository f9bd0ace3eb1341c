import ForumDigest.Calendar.Rfc3339
import ForumDigest.Config.Basic
import ForumDigest.Text.Quoted

namespace ForumDigest

/-- An identity, the token that it was granted last and the instant from which that token is no
longer valid. Only authentication writes these two. -/
structure Credential where
  identity : Identity := {}
  token : String := ""
  expiresAt : Option Instant := none
  deriving DecidableEq, Repr, Inhabited

namespace Credential

def ofIdentity (i : Identity) : Credential := { identity := i }

def new (clientId clientSecret username password : String) : Credential :=
  ofIdentity { clientId, clientSecret, username, password }

def hasToken (k : Credential) : Bool := k.token ≠ ""

def isExpired (now : Instant) (k : Credential) : Bool := k.expiresAt.any now.reached

/-- A token is there and is no longer valid. -/
def needsRenewal (now : Instant) (k : Credential) : Bool := k.hasToken && k.isExpired now

def details (k : Credential) : String :=
  let expiry := match k.expiresAt with
    | some t => "Some(" ++ Rfc3339.text t ++ ")"
    | none => "None"
  "RedditCredential \x7b client_id: " ++ Text.quoted k.identity.clientId ++
    ", username: " ++ Text.quoted k.identity.username ++
    ", user_agent: " ++ Text.quoted k.identity.userAgent ++
    ", has_access_token: " ++ toString k.hasToken ++
    ", expires_at: " ++ expiry ++ ", .. \x7d"

end Credential

end ForumDigest
