import ForumDigest.Http.Status
import ForumDigest.Notice

namespace ForumDigest.Http

inductive Ending where
  | complete
  | broken
  | stalled
  deriving DecidableEq, Repr

structure Response where
  status : UInt16 := 200
  headers : List (String × String) := []
  /-- The text of the body, as far as it arrives. The transport decodes the bytes, by the encoding
  that they or the headers name, so any text may come with any headers. -/
  body : String := ""
  ending : Ending := .complete
  deriving DecidableEq, Repr

inductive Reply where
  | unreachable
  /-- The connection is closed without an answer. -/
  | closed
  /-- The time limit passes before an answer begins. -/
  | silent
  | response (r : Response)
  deriving DecidableEq, Repr

def defaultRetryAfter : UInt64 := 60

def seconds? (cs : List Char) : Option UInt64 :=
  let ds := match cs with
    | '+' :: ds => ds
    | ds => ds
  if ds.isEmpty || !ds.all Char.isDigit then none
  else
    let n := ds.foldl (fun n d => n * 10 + (d.toNat - 0x30)) 0
    if n < 0x10000000000000000 then some (UInt64.ofNat n) else none

namespace Response

def isOuterBlank (c : Char) : Bool := c == ' ' || c == '\t'

def trimValue (cs : List Char) : List Char :=
  ((cs.dropWhile isOuterBlank).reverse.dropWhile isOuterBlank).reverse

def header? (r : Response) (name : String) : Option (List Char) :=
  (r.headers.find? (·.1.toLower = name)).map fun h => trimValue h.2.toList

def retryAfter (r : Response) : UInt64 :=
  ((r.header? "retry-after").bind seconds?).getD defaultRetryAfter

def hasBody (r : Response) : Bool := r.status ≠ 204 && r.status ≠ 304

def text (r : Response) : Except NetworkFault String :=
  if !r.hasBody then .ok ""
  else
    match r.ending with
    | .complete => .ok r.body
    | .broken => .error .brokenBody
    | .stalled => .error .stalledBody

/-- What an answer that is no success means. A body that does not arrive counts as empty. -/
def fault (url : Url) (r : Response) : ServiceFault :=
  if r.status = 429 then .rateLimitExceeded r.retryAfter
  else if r.status = 401 then .invalidToken
  else if r.status = 403 then .forbidden url.text
  else if isServerError r.status then .serverError r.status
  else .unexpectedStatus r.status url.text (r.text.toOption.getD "")

def faultNotices (url : Url) (r : Response) : List Notice :=
  .requestFailed (statusText r.status) url ::
    (if r.status = 429 then [.rateLimited r.retryAfter] else [])

def read (url : Url) (r : Response) : List Notice × Except Failure String :=
  if isSuccess r.status then
    ([.requestSucceeded (statusText r.status) url], r.text.mapError .network)
  else (r.faultNotices url, .error (.service (r.fault url)))

end Response

namespace Reply

def refuse (f : NetworkFault) : List Notice × Except Failure String :=
  ([.networkFailed f], .error (.network f))

/-- The notices that a reply to a request for `url` leaves, and its text if it is a success. -/
def read (url : Url) : Reply → List Notice × Except Failure String
  | unreachable => refuse (.unreachable url)
  | closed => refuse (.closed url)
  | silent => ([.networkFailed (.timedOut url)], .error (.service .requestTimeout))
  | response r => r.read url

end Reply

end ForumDigest.Http
