namespace ForumDigest

namespace Url

/-- Why a text is no URL. That it is too long to be counted in 32 bits is left out. -/
inductive ParseError where
  | relativeWithoutBase
  | emptyHost
  | invalidPort
  | invalidIpv4
  | invalidIpv6
  | invalidDomainName
  | invalidDomainCharacter
  deriving DecidableEq, Repr

def ParseError.message : ParseError → String
  | .relativeWithoutBase => "relative URL without a base"
  | .emptyHost => "empty host"
  | .invalidPort => "invalid port number"
  | .invalidIpv4 => "invalid IPv4 address"
  | .invalidIpv6 => "invalid IPv6 address"
  | .invalidDomainName => "invalid international domain name"
  | .invalidDomainCharacter => "invalid domain character"

/-- Special schemes have a fixed syntax of authority and path; `file` is special in its own way. -/
inductive SchemeKind where
  | web
  | file
  | other
  deriving DecidableEq, Repr

def schemeKind (scheme : String) : SchemeKind :=
  if ["http", "https", "ws", "wss", "ftp"].contains scheme then .web
  else if scheme = "file" then .file
  else .other

def SchemeKind.isSpecial : SchemeKind → Bool
  | .other => false
  | _ => true

def defaultPort? (scheme : String) : Option Nat :=
  match scheme with
  | "http" | "ws" => some 80
  | "https" | "wss" => some 443
  | "ftp" => some 21
  | _ => none

/-- A domain is kept as its text, an address as its number or its eight pieces. -/
inductive Host where
  | domain (name : String)
  | ipv4 (address : Nat)
  | ipv6 (pieces : List Nat)
  deriving DecidableEq, Repr

structure Authority where
  username : String
  password : Option String
  host : Host
  port : Option Nat
  deriving DecidableEq, Repr

/-- A path of segments, each behind a slash, or a plain text that no slash begins. -/
inductive Path where
  | rooted (segments : List String)
  | plain (text : String)
  deriving DecidableEq, Repr

end Url

/-- A URL by its parts, each in the encoded form in which it is written. -/
structure Url where
  scheme : String
  authority : Option Url.Authority
  path : Url.Path
  query : Option String
  fragment : Option String
  deriving DecidableEq, Repr

namespace Url

def Host.hasName : Host → Bool
  | .domain name => name ≠ ""
  | _ => true

def hasHost (u : Url) : Bool :=
  match u.authority with
  | some a => a.host.hasName
  | none => false

end Url

end ForumDigest
