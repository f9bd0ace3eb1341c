import ForumDigest.Calendar.Rfc3339
import ForumDigest.Failure.Wording

namespace ForumDigest

inductive Level where
  | error
  | warning
  | info
  | debug
  deriving DecidableEq, Repr

def Level.name : Level → String
  | error => "ERROR"
  | warning => "WARN"
  | info => "INFO"
  | debug => "DEBUG"

/-- What a run leaves in its log. A notice holds what it tells; its level, its origin and its
wording follow from that. -/
inductive Notice where
  | starting
  | parsed (count : Nat)
  | loaded (path : String)
  | identityIncomplete
  | tokenReceived (kind scope : String) (expiresIn : Int64)
  | authenticated (username : String) (expiresAt : Instant)
  | tokenExpired
  | fetching (subreddit : String) (url : Url)
  | skipping (id : String)
  | retrieved (count : Nat) (subreddit : String)
  | networkFailed (f : NetworkFault)
  | requestFailed (status : String) (url : Url)
  | requestSucceeded (status : String) (url : Url)
  | rateLimited (seconds : UInt64)
  | alreadyAuthenticated (subreddit : String)
  | authenticating (subreddit : String)
  | failed (f : Failure)
  | serviceFailed (f : ServiceFault)
  | configFailed (f : ConfigFault)
  | serviceDetails (f : ServiceFault)
  | configDetails (f : ConfigFault)
  | errorCode (code : String)
  | userMessage (text : String)
  deriving DecidableEq, Repr

namespace Notice

def level : Notice → Level
  | networkFailed _ | requestFailed .. | failed _ | serviceFailed _ | configFailed _
  | serviceDetails _ | configDetails _ => .error
  | rateLimited _ => .warning
  | starting | loaded _ | authenticated .. | tokenExpired | retrieved .. | authenticating _
  | errorCode _ | userMessage _ => .info
  | parsed _ | identityIncomplete | tokenReceived .. | fetching .. | skipping _
  | requestSucceeded .. | alreadyAuthenticated _ => .debug

def origin : Notice → String
  | starting => "subreddit_feed"
  | parsed _ | loaded _ => "feed_core::config"
  | identityIncomplete | tokenReceived .. | authenticated .. => "reddit_client::auth"
  | tokenExpired | fetching .. | skipping _ | retrieved .. => "reddit_client::api"
  | networkFailed _ | requestFailed .. | requestSucceeded .. | rateLimited _ =>
    "reddit_client::http"
  | alreadyAuthenticated _ | authenticating _ => "reddit_client::feed"
  | failed _ | serviceFailed _ | configFailed _ | serviceDetails _ | configDetails _
  | errorCode _ | userMessage _ => "feed_core::error_utils"

def text : Notice → String
  | starting => "Starting subreddit-feed"
  | parsed n => "Parsed " ++ toString n ++ " subreddit feed(s)"
  | loaded path => "Loaded configuration from " ++ path
  | identityIncomplete => "Reddit app credentials incomplete, skipping authentication"
  | tokenReceived kind scope n =>
    "Token response: type=" ++ kind ++ ", scope=" ++ scope ++ ", expires_in=" ++ toString n.toInt
  | authenticated username expiresAt =>
    "Authenticated with Reddit as " ++ username ++ ", token valid until " ++
      Rfc3339.spokenText expiresAt
  | tokenExpired => "Reddit token expired, re-authenticating"
  | fetching subreddit url => "Fetching r/" ++ subreddit ++ " from " ++ url.text
  | skipping id => "Skipping stickied post " ++ id
  | retrieved n subreddit => "Retrieved " ++ toString n ++ " posts from r/" ++ subreddit
  | networkFailed f => "Network error: " ++ f.message
  | requestFailed status url => "Request failed with status: " ++ status ++ " for " ++ url.text
  | requestSucceeded status url => "Request successful: " ++ status ++ " " ++ url.text
  | rateLimited n => "Rate limited, retry after " ++ toString n.toNat ++ " seconds"
  | alreadyAuthenticated subreddit => "r/" ++ subreddit ++ " already authenticated"
  | authenticating subreddit => "Authenticating r/" ++ subreddit ++ " feed"
  | failed f => "CoreError: " ++ f.message
  | serviceFailed f => "RedditApiError: " ++ f.message
  | configFailed f => "ConfigError: " ++ f.message
  | serviceDetails f => "Reddit API error details: " ++ f.details
  | configDetails f => "Configuration error details: " ++ f.details
  | errorCode c => "Error code: " ++ c
  | userMessage m => "User message: " ++ m

def line (n : Notice) : String := n.level.name ++ " " ++ n.origin ++ ": " ++ n.text

end Notice

def Failure.notices (f : Failure) : List Notice :=
  match f with
  | .service s => [.failed f, .serviceDetails s]
  | .config c => [.failed f, .configDetails c]
  | _ => [.failed f]

def Failure.report (f : Failure) : List Notice :=
  f.notices ++ [.errorCode f.code, .userMessage f.advice]

end ForumDigest
