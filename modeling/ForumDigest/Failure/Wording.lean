import ForumDigest.Failure.Basic

namespace ForumDigest

namespace ServiceFault

def message : ServiceFault → String
  | accessTokenMissing => "Reddit access token missing from token response"
  | expiryMissing => "Reddit token expiry missing from token response"
  | invalidExpiry n => "Reddit token expiry out of range: " ++ toString n.toInt ++ " seconds"
  | noPostsFound subreddit => "No posts found in r/" ++ subreddit
  | rateLimitExceeded n =>
    "Rate limit exceeded. Retry after " ++ toString n.toNat ++ " seconds"
  | forbidden resource => "Forbidden access to resource: " ++ resource
  | invalidToken => "Invalid OAuth token"
  | requestTimeout => "Request timeout"
  | serverError status => "Server error: " ++ toString status.toNat
  | unexpectedStatus status url body =>
    "Unexpected status code " ++ toString status.toNat ++ " for " ++ url ++ ": " ++ body

def code : ServiceFault → String
  | accessTokenMissing => "REDDIT_ACCESS_TOKEN_MISSING"
  | expiryMissing => "REDDIT_EXPIRY_MISSING"
  | invalidExpiry _ => "REDDIT_INVALID_EXPIRY"
  | noPostsFound _ => "REDDIT_NO_POSTS"
  | rateLimitExceeded _ => "REDDIT_RATE_LIMIT"
  | forbidden _ => "REDDIT_FORBIDDEN"
  | invalidToken => "REDDIT_INVALID_TOKEN"
  | requestTimeout => "REDDIT_TIMEOUT"
  | serverError _ => "REDDIT_SERVER_ERROR"
  | unexpectedStatus .. => "REDDIT_UNEXPECTED_STATUS"

def advice : ServiceFault → String
  | accessTokenMissing | expiryMissing | invalidExpiry _ =>
    "Reddit authentication failed. Please check your app credentials."
  | noPostsFound subreddit => "No posts found in r/" ++ subreddit ++ "."
  | rateLimitExceeded n =>
    "Too many requests. Please wait " ++ toString n.toNat ++ " seconds before trying again."
  | forbidden resource =>
    "Access denied to " ++ resource ++ ". You may not have permission to view this content."
  | invalidToken => "Reddit authentication token is invalid. Please re-authenticate."
  | requestTimeout => "Request to Reddit timed out. Please try again."
  | serverError _ | unexpectedStatus .. => "Reddit API error occurred. Please try again later."

def details : ServiceFault → String
  | accessTokenMissing => "AccessTokenMissing"
  | expiryMissing => "ExpiryMissing"
  | invalidExpiry n => "InvalidExpiry \x7b expires_in: " ++ toString n.toInt ++ " \x7d"
  | noPostsFound subreddit =>
    "NoPostsFound \x7b subreddit: " ++ Text.quoted subreddit ++ " \x7d"
  | rateLimitExceeded n =>
    "RateLimitExceeded \x7b retry_after: " ++ toString n.toNat ++ " \x7d"
  | forbidden resource => "Forbidden \x7b resource: " ++ Text.quoted resource ++ " \x7d"
  | invalidToken => "InvalidToken"
  | requestTimeout => "RequestTimeout"
  | serverError status => "ServerError \x7b status_code: " ++ toString status.toNat ++ " \x7d"
  | unexpectedStatus status url body =>
    "UnexpectedStatus \x7b status_code: " ++ toString status.toNat ++ ", url: " ++
      Text.quoted url ++ ", body: " ++ Text.quoted body ++ " \x7d"

end ServiceFault

namespace ConfigFault

def message : ConfigFault → String
  | fileNotFound path => "Configuration file not found: " ++ path
  | refused (.missingField field) => "Missing required field: " ++ field
  | refused (.invalidValue field value) => "Invalid value for " ++ field ++ ": " ++ value
  | unreadable e => "Configuration parsing error: " ++ e.message

def code : ConfigFault → String
  | fileNotFound _ => "CONFIG_FILE_NOT_FOUND"
  | refused (.missingField _) => "CONFIG_MISSING_FIELD"
  | refused (.invalidValue ..) => "CONFIG_INVALID_VALUE"
  | unreadable _ => "CONFIG_PARSE_ERROR"

def advice : ConfigFault → String
  | fileNotFound path => "Configuration file '" ++ path ++ "' not found."
  | refused (.missingField field) => "Required configuration field '" ++ field ++ "' is missing."
  | refused (.invalidValue field _) => "Invalid value for configuration field '" ++ field ++ "'."
  | unreadable _ => "Configuration file format is invalid. Please check the settings."

def details : ConfigFault → String
  | fileNotFound path => "FileNotFound \x7b path: " ++ Text.quoted path ++ " \x7d"
  | refused (.missingField field) => "MissingField \x7b field: " ++ Text.quoted field ++ " \x7d"
  | refused (.invalidValue field value) =>
    "InvalidValue \x7b field: " ++ Text.quoted field ++ ", value: " ++ Text.quoted value ++ " \x7d"
  | unreadable e => "Parse(" ++ Text.quoted e.message ++ ")"

end ConfigFault

def FileFault.message : FileFault → String
  | isDirectory => "Is a directory (os error 21)"
  | notUtf8 => "stream did not contain valid UTF-8"
  | other text => text

namespace NetworkFault

def sending (url : Url) (cause : String) : String :=
  "error sending request for url (" ++ url.text ++ "): " ++ cause

def body (cause : String) : String := "request or response body error: " ++ cause

def message : NetworkFault → String
  | noUrl e => "builder error: " ++ e.message
  | badScheme url => "builder error for url (" ++ url.text ++ "): URL scheme is not allowed"
  | badHeader => "builder error: failed to parse header value"
  | unreachable url =>
    sending url
      "error trying to connect: tcp connect error: Network is unreachable (os error 101)"
  | closed url => sending url "connection closed before message completed"
  | timedOut url => sending url "operation timed out"
  | brokenBody =>
    body "error reading a body from connection: end of file before message length reached"
  | stalledBody => body "operation timed out"

end NetworkFault

namespace Failure

def message : Failure → String
  | service f => "Reddit API error: " ++ f.message
  | config f => "Configuration error: " ++ f.message
  | file f => "IO error: " ++ f.message
  | json e => "Serialization error: " ++ e.message
  | network f => "Network error: " ++ f.message
  | url e => "Invalid URL: " ++ e.message

def code : Failure → String
  | service _ => "REDDIT_API"
  | config _ => "CONFIG"
  | file _ => "IO"
  | json _ => "SERIALIZATION"
  | network _ => "NETWORK"
  | url _ => "INVALID_URL"

def advice : Failure → String
  | service f => f.advice
  | config f => f.advice
  | file _ => "A local I/O error occurred."
  | json _ => "Reddit returned a response that could not be read."
  | network _ => "Network connection error. Please check your internet connection."
  | url _ => "The request URL is invalid. Please check the request URL template."

def cause : Failure → String
  | service f => f.message
  | config f => f.message
  | file f => f.message
  | json e => e.message
  | network f => f.message
  | url e => e.message

end Failure

end ForumDigest
