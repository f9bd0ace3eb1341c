import ForumDigest.Client.Basic
import ForumDigest.Credential
import ForumDigest.Json.Decode

namespace ForumDigest

open Http Json

structure TokenReply where
  accessToken : String := ""
  expiresIn : Int64 := 0
  scope : String := ""
  tokenType : String := ""
  deriving DecidableEq, Repr, Inhabited

namespace TokenReply

def fields : List (RecordField TokenReply) :=
  [ .of "access_token" .nowhere readString fun s a => { s with accessToken := a },
    .of "expires_in" .nowhere readInt64 fun s a => { s with expiresIn := a },
    .of "scope" .nowhere readString fun s a => { s with scope := a },
    .of "token_type" .nowhere readString fun s a => { s with tokenType := a } ]

def read : Reader TokenReply := readRecord "AccessTokenResponse" fields {}

def notice (r : TokenReply) : Notice := .tokenReceived r.tokenType r.scope r.expiresIn

end TokenReply

namespace Identity

def tokenForm (i : Identity) : List (String × String) :=
  [("grant_type", "password"), ("username", i.username), ("password", i.password)]

def tokenRequest (url : String) (i : Identity) : Except NetworkFault Request :=
  match Url.parse url with
  | .error e => .error (.noUrl e)
  | .ok url =>
    Request.prepare .post url
      [ basicAuthorization i.clientId i.clientSecret,
        ("user-agent", i.agent),
        ("content-type", "application/x-www-form-urlencoded") ]
      (String.ofList (Url.Form.encode i.tokenForm))

end Identity

namespace Client

def askToken (c : Client) (i : Identity) : Except Failure TokenReply × Client :=
  c.ask TokenReply.read (i.tokenRequest c.endpoints.tokenUrl)

/-- Puts the token of a reply in place of the one before, if the reply tells all that is needed. -/
def accept (c : Client) (k : Credential) (r : TokenReply) :
    Except Failure Unit × Credential × Client :=
  if r.accessToken = "" then (.error (.service .accessTokenMissing), k, c)
  else if r.expiresIn ≤ 0 then (.error (.service .expiryMissing), k, c)
  else
    match c.now.addSeconds? r.expiresIn.toInt with
    | none => (.error (.service (.invalidExpiry r.expiresIn)), k, c.note [r.notice])
    | some expiresAt =>
      (.ok (), { k with token := r.accessToken, expiresAt := some expiresAt },
        c.note [r.notice, .authenticated k.identity.username expiresAt])

/-- Obtains a token for a credential whose identity is complete. The credential changes only if a
token is granted. -/
def authenticate (c : Client) (k : Credential) : Except Failure Unit × Credential × Client :=
  if !k.identity.isComplete then (.ok (), k, c.note [.identityIncomplete])
  else
    match c.askToken k.identity with
    | (.error f, c) => (.error f, k, c)
    | (.ok reply, c) => c.accept k reply

end Client

end ForumDigest
