import ForumDigest.Proofs.Client.Fetch

namespace ForumDigest

open Http

/-- The ways to make a credential. -/
inductive Credential.Made : Credential → Prop where
  | new (clientId clientSecret username password : String) :
      Made (.new clientId clientSecret username password)
  | empty : Made default
  | ofIdentity (i : Identity) : Made (.ofIdentity i)

theorem Credential.Made.eq_ofIdentity {k : Credential} (h : k.Made) :
    ∃ i, k = Credential.ofIdentity i := by
  cases h with
  | new => exact ⟨_, rfl⟩
  | empty => exact ⟨{}, rfl⟩
  | ofIdentity i => exact ⟨i, rfl⟩

structure Session where
  client : Client
  credential : Credential
  deriving DecidableEq, Repr

inductive Action where
  | authenticate
  | fetch (q : Query)
  | browse (q : Query)
  | edit (i : Identity)
  | clock (t : Instant)
  deriving DecidableEq, Repr

inductive Answer where
  | done
  | authenticated (result : Except Failure Unit)
  | fetched (result : Except Failure (List Post))

namespace Session

def step (s : Session) : Action → Answer × Session
  | .authenticate =>
    let (result, k, c) := s.client.authenticate s.credential
    (.authenticated result, ⟨c, k⟩)
  | .fetch q =>
    let (result, k, c) := s.client.fetch q (some s.credential)
    (.fetched result, ⟨c, k.getD s.credential⟩)
  | .browse q =>
    let (result, _, c) := s.client.fetch q none
    (.fetched result, { s with client := c })
  | .edit i => (.done, { s with credential := { s.credential with identity := i } })
  | .clock t => (.done, { s with client := { s.client with now := t } })

def answer (s : Session) (a : Action) : Answer := (s.step a).1

def next (s : Session) (a : Action) : Session := (s.step a).2

def after (s : Session) (as : List Action) : Session := as.foldl next s

def answers (s : Session) : List Action → List Answer
  | [] => []
  | a :: as => s.answer a :: (s.next a).answers as

def requests (s : Session) (a : Action) : List Request := Client.sentSince s.client (s.next a).client

/-- The states that a credential and its client come into from the making of the credential on. -/
def Reachable (s : Session) : Prop := ∃ c k as, Credential.Made k ∧ s = after ⟨c, k⟩ as

theorem step_browse (s : Session) (q : Query) :
    s.step (.browse q) =
      (.fetched (s.client.readListing q none).1,
        { s with client := (s.client.readListing q none).2 }) := rfl

theorem after_append (s : Session) (as : List Action) (a : Action) :
    s.after (as ++ [a]) = (s.after as).next a := by
  rw [after, List.foldl_append]
  rfl

def sampleGrant (token : String) (seconds : Nat) : Reply :=
  .response
    { body := s!"\x7b\"access_token\":\"{token}\",\"expires_in\":{seconds}\x7d" }

/-- A credential without a token and a forum that grants a token for a minute, then one for an hour,
and closes the third connection. -/
def sampleSession : Session where
  client :=
    { endpoints := .rootedAt "http://forum.test"
      awaited := [sampleGrant "first" 60, sampleGrant "second" 3600, .closed] }
  credential := .new "id" "secret" "user" "password"

theorem reachable_of_sample (as : List Action) : (sampleSession.after as).Reachable :=
  ⟨_, _, as, .new _ _ _ _, rfl⟩

end Session

end ForumDigest
