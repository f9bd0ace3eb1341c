import ForumDigest.Proofs.Session.Basic
import Mathlib.Data.List.Induction
import Mathlib.Tactic.Convert

namespace ForumDigest

namespace Client

variable {c : Client} {k : Credential}

def grantingReply? (c : Client) (k : Credential) : Option TokenReply :=
  if k.identity.isComplete && (c.authenticate k).1.isOk then (c.askToken k.identity).1.toOption
  else none

end Client

/-- A reply by which an authentication succeeded, and the clock then. -/
structure Grant where
  reply : TokenReply
  clock : Instant
  deriving DecidableEq, Repr

def Grant.expiry (g : Grant) : Instant :=
  ⟨g.clock.seconds + g.reply.expiresIn.toInt, g.clock.nanos⟩

structure Grant.HeldBy (g : Grant) (k : Credential) : Prop where
  given : g.reply.accessToken ≠ ""
  positive : 0 < g.reply.expiresIn
  token : k.token = g.reply.accessToken
  expiresAt : k.expiresAt = some g.expiry

def Credential.Holds (k : Credential) : Option Grant → Prop
  | none => k.token = "" ∧ k.expiresAt = none
  | some g => g.HeldBy k

theorem Credential.Holds.congr {k k' : Credential} {g : Option Grant} (h : k.Holds g)
    (ht : k'.token = k.token) (he : k'.expiresAt = k.expiresAt) : k'.Holds g := by
  cases g with
  | none => exact ⟨ht.trans h.1, he.trans h.2⟩
  | some g => exact ⟨h.given, h.positive, ht.trans h.token, he.trans h.expiresAt⟩

theorem Credential.Holds.hasToken_iff {k : Credential} {g : Option Grant} (h : k.Holds g) :
    k.token ≠ "" ↔ k.expiresAt ≠ none := by
  cases g with
  | none => simp [h.1, h.2]
  | some g => simp [h.token, h.given, h.expiresAt]

theorem Client.authenticate_holds (c : Client) (k : Credential) :
    (c.grantingReply? k = none ∧ (c.authenticate k).2.1 = k) ∨
    ∃ r, c.grantingReply? k = some r ∧ Grant.HeldBy ⟨r, c.now⟩ (c.authenticate k).2.1 ∧
      (c.authenticate k).2.1.identity = k.identity := by
  have h := c.authenticate_spec k
  unfold grantingReply?
  generalize c.authenticate k = x at h ⊢
  cases h with
  | skipped incomplete => exact .inl ⟨by simp [incomplete], rfl⟩
  | failed complete sends single => exact .inl ⟨by simp [Except.isOk, Except.toBool], rfl⟩
  | @granted r p e c' complete sends prepared answered given positive expiry =>
    refine .inr ⟨r, ?_, ⟨given, positive, rfl, ?_⟩, rfl⟩
    · simp [complete, answered, Except.isOk, Except.toBool, Except.toOption]
    · rw [(Instant.addSeconds?_eq_some_iff.mp expiry).2]
      rfl

namespace Session

def obtained? (s : Session) : Action → Option TokenReply
  | .authenticate => s.client.grantingReply? s.credential
  | .fetch _ =>
    if s.credential.needsRenewal s.client.now then
      (s.client.note [.tokenExpired]).grantingReply? s.credential
    else none
  | _ => none

def grants (s : Session) : List Action → List Grant
  | [] => []
  | a :: as => ((s.obtained? a).map (⟨·, s.client.now⟩)).toList ++ (s.next a).grants as

theorem grants_append (s : Session) (as : List Action) (a : Action) :
    s.grants (as ++ [a]) =
      s.grants as ++ (((s.after as).obtained? a).map (⟨·, (s.after as).client.now⟩)).toList := by
  induction as generalizing s with
  | nil => simp [grants, after]
  | cons b as ih =>
    rw [List.cons_append, grants, ih, grants, List.append_assoc]
    rfl

theorem credential_fetch (s : Session) (q : Query) :
    (s.next (.fetch q)).credential = (s.credential.renewed s.client).2.1 := by
  have h := s.client.fetch_credential q s.credential
  simp only [next, step, h, Option.getD_some]

def lastGrant (s : Session) (a : Action) (g : Option Grant) : Option Grant :=
  ((s.obtained? a).map (⟨·, s.client.now⟩)).or g

theorem holds_next {s : Session} {g : Option Grant} (h : s.credential.Holds g) (a : Action) :
    (s.next a).credential.Holds (s.lastGrant a g) := by
  have authenticated (c : Client) (hn : c.now = s.client.now) :
      (c.authenticate s.credential).2.1.Holds
        (((c.grantingReply? s.credential).map (⟨·, s.client.now⟩)).or g) := by
    rcases c.authenticate_holds s.credential with ⟨ho, hk⟩ | ⟨r, ho, hk, -⟩
    · rw [ho, hk]
      exact h
    · rw [ho, ← hn]
      exact hk
  cases a with
  | authenticate => exact authenticated s.client rfl
  | fetch q =>
    rw [credential_fetch, lastGrant, obtained?, Credential.renewed]
    split
    · exact authenticated _ rfl
    · exact h
  | browse q =>
    rw [next, step_browse]
    exact h
  | edit i => exact h.congr rfl rfl
  | clock t => exact h

theorem holds_after {s : Session} (h : s.credential.Holds none) (as : List Action) :
    (s.after as).credential.Holds (s.grants as).getLast? := by
  induction as using List.reverseRecOn with
  | nil => exact h
  | append_singleton as a ih =>
    rw [after_append, grants_append, List.getLast?_append]
    convert holds_next ih a using 1
    rw [lastGrant]
    cases (s.after as).obtained? a <;> rfl

theorem holds_none_of_made {k : Credential} (made : k.Made) : k.Holds none := by
  obtain ⟨i, rfl⟩ := made.eq_ofIdentity
  exact ⟨rfl, rfl⟩

theorem Reachable.holds {s : Session} (h : s.Reachable) : ∃ g, s.credential.Holds g := by
  obtain ⟨c, k, as, made, rfl⟩ := h
  exact ⟨_, holds_after (s := ⟨c, k⟩) (holds_none_of_made made) as⟩

/-- A session begins with a credential as it was made. Whatever is done with it and whatever the
servers answer, it holds the token and the expiry of the reply that was granted last, or nothing if
none was. -/
theorem after_holds_last_grant {s : Session} (made : s.credential.Made) (as : List Action) :
    (s.after as).credential.Holds (s.grants as).getLast? ∧
      ((s.after as).credential.token ≠ "" ↔ (s.after as).credential.expiresAt ≠ none) := by
  have h := holds_after (holds_none_of_made made) as
  exact ⟨h, h.hasToken_iff⟩

set_option maxRecDepth 4000 in
/-- A token is granted, expires and is renewed by a fetch: what is held is of the second grant. -/
theorem after_holds_last_grant_of_renewal :
    let as : List Action := [.authenticate, .clock ⟨60, 0⟩, .fetch { subreddit := "lean" }]
    sampleSession.credential.Made ∧
      (sampleSession.grants as).getLast? =
        some ⟨{ accessToken := "second", expiresIn := 3600 }, ⟨60, 0⟩⟩ ∧
      (sampleSession.after as).credential.Holds (sampleSession.grants as).getLast? ∧
      ((sampleSession.after as).credential.token ≠ "" ↔
        (sampleSession.after as).credential.expiresAt ≠ none) := by
  intro as
  have made : sampleSession.credential.Made := .new _ _ _ _
  have last : (sampleSession.grants as).getLast? =
      some ⟨{ accessToken := "second", expiresIn := 3600 }, ⟨60, 0⟩⟩ := by
    decide +kernel
  exact ⟨made, last, after_holds_last_grant made as⟩

end Session

end ForumDigest
