import ForumDigest.Endpoints
import ForumDigest.Http.Reply
import ForumDigest.Http.Request

namespace ForumDigest

open Http

/-- A client of the forum. The replies still to come are part of it, so that a run is a function of
them. A reply is what comes back in the end: redirects on the way belong to the transport. -/
structure Client where
  endpoints : Endpoints := {}
  now : Instant := .epoch
  /-- The replies still to come, one for each request; behind the last one every host is out of
  reach. -/
  awaited : List Reply := []
  sent : List Request := []
  log : List Notice := []
  deriving DecidableEq, Repr

namespace Client

def note (c : Client) (ns : List Notice) : Client := { c with log := c.log ++ ns }

def nextReply (c : Client) : Reply := c.awaited.headD .unreachable

def send (c : Client) (r : Request) : Except Failure String × Client :=
  let (notices, text) := c.nextReply.read r.url
  (text,
    { c with
      awaited := c.awaited.tail
      sent := if c.nextReply = .unreachable then c.sent else c.sent ++ [r]
      log := c.log ++ notices })

def ask {α : Type} (c : Client) (reader : Json.Reader α) (r : Except NetworkFault Request) :
    Except Failure α × Client :=
  match r with
  | .error f => (.error (.network f), c.note [.networkFailed f])
  | .ok r =>
    match c.send r with
    | (.error f, c) => (.error f, c)
    | (.ok text, c) => ((Json.decode reader text).mapError .json, c)

end Client

end ForumDigest
