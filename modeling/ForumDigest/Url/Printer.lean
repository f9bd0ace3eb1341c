import ForumDigest.Url.Address

namespace ForumDigest.Url

def Host.text : Host → String
  | .domain name => name
  | .ipv4 address => Address.ipv4Text address
  | .ipv6 pieces => "[" ++ Address.ipv6Text pieces ++ "]"

def Authority.userinfo (a : Authority) : String :=
  match a.password with
  | some p => a.username ++ ":" ++ p ++ "@"
  | none => if a.username = "" then "" else a.username ++ "@"

def Authority.text (a : Authority) : String :=
  "//" ++ a.userinfo ++ a.host.text ++ (match a.port with
    | some p => ":" ++ toString p
    | none => "")

def Path.text : Path → String
  | .rooted segments => String.join (segments.map ("/" ++ ·))
  | .plain text => text

/-- Without an authority, `/.` keeps a path that begins with an empty segment from reading as
one. -/
def pathGuard (authority : Option Authority) : Path → String
  | .rooted ("" :: _ :: _) => if authority.isNone then "/." else ""
  | _ => ""

def text (u : Url) : String :=
  u.scheme ++ ":" ++ (match u.authority with
    | some a => a.text
    | none => "") ++ pathGuard u.authority u.path ++ u.path.text ++ (match u.query with
    | some q => "?" ++ q
    | none => "") ++ (match u.fragment with
    | some f => "#" ++ f
    | none => "")

instance : ToString Url := ⟨text⟩

end ForumDigest.Url
