import ForumDigest.Config.Validation
import ForumDigest.Toml.Decode
import ForumDigest.Url.Printer

namespace ForumDigest

inductive ServiceFault where
  | accessTokenMissing
  | expiryMissing
  | invalidExpiry (expiresIn : Int64)
  | noPostsFound (subreddit : String)
  | rateLimitExceeded (retryAfter : UInt64)
  | forbidden (resource : String)
  | invalidToken
  | requestTimeout
  | serverError (status : UInt16)
  | unexpectedStatus (status : UInt16) (url body : String)
  deriving DecidableEq, Repr

inductive ConfigFault where
  | fileNotFound (path : String)
  | refused (reason : Refusal)
  | unreadable (e : Toml.Error)
  deriving DecidableEq, Repr

inductive FileFault where
  | isDirectory
  | notUtf8
  | other (text : String)
  deriving DecidableEq, Repr

/-- No answer came, or it broke off. The first three are found before anything is sent. -/
inductive NetworkFault where
  | noUrl (e : Url.ParseError)
  | badScheme (url : Url)
  | badHeader
  | unreachable (url : Url)
  | closed (url : Url)
  /-- No answer began within the time limit. -/
  | timedOut (url : Url)
  | brokenBody
  /-- The time limit passed within the answer's body. -/
  | stalledBody
  deriving DecidableEq, Repr

inductive Failure where
  | service (f : ServiceFault)
  | config (f : ConfigFault)
  | file (f : FileFault)
  | json (e : Json.Error)
  | network (f : NetworkFault)
  | url (e : Url.ParseError)
  deriving DecidableEq, Repr

end ForumDigest
