import ForumDigest.Proofs.Client.Answer
import ForumDigest.Proofs.Session.Renewal

namespace ForumDigest

open Http

structure Identity.Complete (i : Identity) : Prop where
  clientId : i.clientId ≠ ""
  clientSecret : i.clientSecret ≠ ""
  username : i.username ≠ ""
  password : i.password ≠ ""

theorem Identity.complete_iff {i : Identity} : i.Complete ↔ i.isComplete = true := by
  simp only [isComplete, Bool.and_eq_true, decide_eq_true_iff]
  constructor
  · rintro ⟨clientId, clientSecret, username, password⟩
    exact ⟨⟨⟨clientId, clientSecret⟩, username⟩, password⟩
  · rintro ⟨⟨⟨clientId, clientSecret⟩, username⟩, password⟩
    exact ⟨clientId, clientSecret, username, password⟩

namespace TokenReply

/-- At `t` the reply tells a token and when it expires. -/
structure Grants (r : TokenReply) (t : Instant) : Prop where
  given : r.accessToken ≠ ""
  positive : 0 < r.expiresIn
  admitted : t.Admits r.expiresIn.toInt

/-- What is missing in a reply that comes at `t`, in the order in which it is looked for. -/
inductive Lacks (r : TokenReply) (t : Instant) : ServiceFault → Prop where
  | token (missing : r.accessToken = "") : Lacks r t .accessTokenMissing
  | expiry (given : r.accessToken ≠ "") (missing : r.expiresIn ≤ 0) :
      Lacks r t .expiryMissing
  | instant (given : r.accessToken ≠ "") (positive : 0 < r.expiresIn)
      (refused : ¬ t.Admits r.expiresIn.toInt) : Lacks r t (.invalidExpiry r.expiresIn)

theorem grants_or_lacks (r : TokenReply) (t : Instant) : r.Grants t ∨ ∃ f, r.Lacks t f := by
  by_cases given : r.accessToken = ""
  · exact .inr ⟨_, .token given⟩
  · by_cases positive : 0 < r.expiresIn
    · by_cases admitted : t.Admits r.expiresIn.toInt
      · exact .inl ⟨given, positive, admitted⟩
      · exact .inr ⟨_, .instant given positive admitted⟩
    · exact .inr ⟨_, .expiry given (Int64.not_lt.mp positive)⟩

end TokenReply

namespace Client

variable {c : Client} {k : Credential} {r : TokenReply} {f : ServiceFault}

theorem accept_of_grants (h : r.Grants c.now) (k : Credential) :
    (c.accept k r).1 = .ok () ∧ (c.accept k r).2.1 =
      { k with
        token := r.accessToken
        expiresAt := some ⟨c.now.seconds + r.expiresIn.toInt, c.now.nanos⟩ } := by
  have expiry := Instant.addSeconds?_eq_some_iff.mpr ⟨h.admitted, rfl⟩
  rw [accept, if_neg h.given, if_neg (Int64.not_le.mpr h.positive), expiry]
  exact ⟨rfl, rfl⟩

theorem accept_of_lacks (h : r.Lacks c.now f) (k : Credential) :
    (c.accept k r).1 = .error (.service f) := by
  cases h with
  | token missing => rw [accept, if_pos missing]
  | expiry given missing => rw [accept, if_neg given, if_pos missing]
  | instant given positive refused =>
    rw [accept, if_neg given, if_neg (Int64.not_le.mpr positive),
      Instant.addSeconds?_eq_none_iff.mpr refused]

def Answered (c : Client) (k : Credential) : Except Failure TokenReply → Prop :=
  c.Answers TokenReply.read (k.identity.tokenRequest c.endpoints.tokenUrl)

theorem answered_askToken (c : Client) (k : Credential) : c.Answered k (c.askToken k.identity).1 :=
  c.ask_answers _ _

theorem authenticate_of_failed {f : Failure} (complete : k.identity.Complete)
    (answered : c.Answered k (.error f)) : (c.authenticate k).1 = .error f := by
  have asked : (c.askToken k.identity).1 = .error f := ask_of_answers answered
  rcases ha : c.askToken k.identity with ⟨x, c'⟩
  rw [ha] at asked
  cases asked
  rw [authenticate, if_neg (by simp [Identity.complete_iff.mp complete]), ha]

theorem authenticate_of_answered (complete : k.identity.Complete)
    (answered : c.Answered k (.ok r)) :
    (c.authenticate k).1 = (c.accept k r).1 ∧ (c.authenticate k).2.1 = (c.accept k r).2.1 := by
  have asked : (c.askToken k.identity).1 = .ok r := ask_of_answers answered
  obtain ⟨_, sends, -⟩ := c.askToken_sends k.identity
  rcases ha : c.askToken k.identity with ⟨x, c'⟩
  rw [ha] at asked sends
  cases asked
  rw [authenticate, if_neg (by simp [Identity.complete_iff.mp complete]), ha]
  exact accept_of_now sends.now k r

theorem authenticate_of_incomplete (incomplete : ¬ k.identity.Complete) :
    c.authenticate k = (.ok (), k, c.note [.identityIncomplete]) := by
  rw [Identity.complete_iff] at incomplete
  exact if_pos (by simpa using incomplete)

theorem authenticate_kept {f : Failure} (h : (c.authenticate k).1 = .error f) :
    (c.authenticate k).2.1 = k := by
  have spec := c.authenticate_spec k
  generalize c.authenticate k = x at spec h ⊢
  cases spec with
  | skipped => rfl
  | failed => rfl
  | granted => cases h

theorem exists_grants (complete : k.identity.Complete) (h : (c.authenticate k).1 = .ok ()) :
    ∃ r, c.Answered k (.ok r) ∧ r.Grants c.now := by
  have answered := c.answered_askToken k
  cases asked : (c.askToken k.identity).1 with
  | error f =>
    rw [asked] at answered
    rw [authenticate_of_failed complete answered] at h
    cases h
  | ok r =>
    rw [asked] at answered
    refine ⟨r, answered, ?_⟩
    obtain grants | ⟨f, lacks⟩ := r.grants_or_lacks c.now
    · exact grants
    · rw [(authenticate_of_answered complete answered).1, accept_of_lacks lacks k] at h
      cases h

/-- An authentication of `k`. -/
structure AllOrNothing (c : Client) (k : Credential) : Prop where
  skipped : ¬ k.identity.Complete → (c.authenticate k).1 = .ok () ∧ (c.authenticate k).2.1 = k ∧
    sentSince c (c.authenticate k).2.2 = []
  single : AtMostOne
    (fun p => p.method = .post ∧ k.identity.tokenRequest c.endpoints.tokenUrl = .ok p)
    (sentSince c (c.authenticate k).2.2)
  /-- With a complete identity it succeeds exactly on a successful answer that decodes and grants a
  token. -/
  succeeds : k.identity.Complete →
    ((c.authenticate k).1 = .ok () ↔ ∃ r, c.Answered k (.ok r) ∧ r.Grants c.now)
  /-- Token and expiry are written together, and nothing else is. -/
  granted : k.identity.Complete → ∀ r, c.Answered k (.ok r) → r.Grants c.now →
    (c.authenticate k).2.1 =
      { k with
        token := r.accessToken
        expiresAt := some ⟨c.now.seconds + r.expiresIn.toInt, c.now.nanos⟩ }
  kept : ∀ f, (c.authenticate k).1 = .error f → (c.authenticate k).2.1 = k
  failed : k.identity.Complete → ∀ f, c.Answered k (.error f) → (c.authenticate k).1 = .error f
  refused : k.identity.Complete → ∀ r f, c.Answered k (.ok r) → r.Lacks c.now f →
    (c.authenticate k).1 = .error (.service f)

/-- A credential gets the token and the expiry of an answer, or it stays as it was. -/
theorem authenticate_allOrNothing (c : Client) (k : Credential) : c.AllOrNothing k where
  skipped := by
    intro incomplete
    rw [authenticate_of_incomplete incomplete]
    exact ⟨rfl, rfl, (c.note_sends _).sentSince_eq⟩
  single := by
    obtain ⟨rs, sends, single⟩ := c.authenticate_sends k
    rw [sends.sentSince_eq]
    exact single.imp fun p prepared => ⟨Identity.method_of_tokenRequest prepared, prepared⟩
  succeeds := by
    intro complete
    refine ⟨exists_grants complete, ?_⟩
    rintro ⟨r, answered, grants⟩
    rw [(authenticate_of_answered complete answered).1, (accept_of_grants grants k).1]
  granted := by
    intro complete r answered grants
    rw [(authenticate_of_answered complete answered).2, (accept_of_grants grants k).2]
  kept := fun _ => authenticate_kept
  failed := fun complete _ answered => authenticate_of_failed complete answered
  refused := by
    intro complete r f answered lacks
    rw [(authenticate_of_answered complete answered).1, accept_of_lacks lacks k]

/-- A token may be valid until the last second that can be told, and no longer. -/
theorem authenticate_allOrNothing_of_lastSecond :
    let c (n : Nat) : Client :=
      { endpoints := .rootedAt "http://forum.test", awaited := [Session.sampleGrant "last" n] }
    let k := Credential.new "id" "secret" "user" "password"
    ((c 8210266876799).authenticate k).2.1 =
        { k with token := "last", expiresAt := some ⟨8210266876799, 0⟩ } ∧
      ((c 8210266876800).authenticate k).1 =
        .error (.service (.invalidExpiry 8210266876800)) := by
  intro c k
  have complete : k.identity.Complete := Identity.complete_iff.mpr (by decide)
  have answered (n : Nat) (r : TokenReply) (h : ((c n).askToken k.identity).1 = .ok r) :
      (c n).Answered k (.ok r) := answers_iff.mpr h
  constructor
  · exact ((c 8210266876799).authenticate_allOrNothing k).granted complete
      { accessToken := "last", expiresIn := 8210266876799 }
      (answered _ _ (by decide +kernel))
      ⟨by decide, by decide, by decide, by decide +kernel, by decide +kernel⟩
  · exact ((c 8210266876800).authenticate_allOrNothing k).refused complete
      { accessToken := "last", expiresIn := 8210266876800 } _
      (answered _ _ (by decide +kernel))
      (.instant (by decide) (by decide) fun h => absurd h.greatest (by decide +kernel))

end Client

end ForumDigest
