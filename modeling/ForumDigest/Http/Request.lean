import ForumDigest.Base64
import ForumDigest.Failure.Basic
import ForumDigest.Text.Utf8

namespace ForumDigest.Http

inductive Method where
  | get
  | post
  deriving DecidableEq, Repr

def Method.name : Method → String
  | get => "GET"
  | post => "POST"

abbrev Headers := List (String × String)

def isHeaderChar (c : Char) : Bool := c == '\t' || (0x20 ≤ c.toNat && c.toNat ≠ 0x7F)

def isHeaderValue (value : String) : Bool := value.toList.all isHeaderChar

structure Request where
  method : Method
  url : Url
  headers : Headers
  body : String := ""
  deriving DecidableEq, Repr

def basicAuthorization (name password : String) : String × String :=
  ("authorization",
    "Basic " ++ String.ofList (Base64.encode (Text.Utf8.encode (name ++ ":" ++ password).toList)))

def percentDecoded? (s : String) : Option String :=
  (Text.Utf8.decode? (Url.Percent.decode (Text.Utf8.encode s.toList))).map String.ofList

def userinfo? (a : Url.Authority) : Option (String × Option String) := do
  let name ← percentDecoded? a.username
  let password := a.password.bind percentDecoded?
  if name = "" ∧ password = none then none else return (name, password)

def withoutUserinfo (u : Url) : Url :=
  { u with authority := u.authority.map fun a => { a with username := "", password := none } }

/-- A request ready to be sent. What the URL tells of a user goes into a header of its own. A
transport may take no URL of 65,535 bytes or more; that limit is left out. -/
def Request.prepare (method : Method) (url : Url) (headers : Headers) (body : String) :
    Except NetworkFault Request :=
  if !url.hasHost then .error (.badScheme url)
  else
    let (url, headers) := match url.authority.bind userinfo? with
      | some (name, password) =>
        (withoutUserinfo url, basicAuthorization name (password.getD "") :: headers)
      | none => (url, headers)
    if !headers.all (fun h => isHeaderValue h.2) then .error .badHeader
    else if url.scheme = "http" ∨ url.scheme = "https" then .ok { method, url, headers, body }
    else .error (.badScheme url)

def Request.target (r : Request) : String := { r.url with fragment := none : Url }.text

end ForumDigest.Http
