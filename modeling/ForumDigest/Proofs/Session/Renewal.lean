import ForumDigest.Proofs.Session.Basic

namespace ForumDigest

open Http

/-- A token is held, and its expiry has come. -/
def Credential.Lapsed (now : Instant) (k : Credential) : Prop :=
  k.token ≠ "" ∧ ∃ e, k.expiresAt = some e ∧ now.reached e = true

theorem Credential.lapsed_iff_needsRenewal {now : Instant} {k : Credential} :
    k.Lapsed now ↔ k.needsRenewal now = true := by
  have expired : k.isExpired now = true ↔ ∃ e, k.expiresAt = some e ∧ now.reached e = true := by
    rw [isExpired, Option.any_eq_true]
  rw [Lapsed, needsRenewal, Bool.and_eq_true, expired, hasToken, decide_eq_true_iff]

namespace Client

variable {c c' : Client} {k : Credential}

theorem accept_of_now (h : c'.now = c.now) (k : Credential) (r : TokenReply) :
    (c'.accept k r).1 = (c.accept k r).1 ∧ (c'.accept k r).2.1 = (c.accept k r).2.1 := by
  unfold accept
  rw [h]
  split
  · exact ⟨rfl, rfl⟩
  · split
    · exact ⟨rfl, rfl⟩
    · split <;> exact ⟨rfl, rfl⟩

theorem authenticate_note (c : Client) (ns : List Notice) (k : Credential) :
    ((c.note ns).authenticate k).1 = (c.authenticate k).1 ∧
      ((c.note ns).authenticate k).2.1 = (c.authenticate k).2.1 := by
  have asked : ((c.note ns).askToken k.identity).1 = (c.askToken k.identity).1 := c.ask_note ns _ _
  obtain ⟨_, sends, -⟩ := c.askToken_sends k.identity
  obtain ⟨_, sends', -⟩ := (c.note ns).askToken_sends k.identity
  have clock : ((c.note ns).askToken k.identity).2.now = (c.askToken k.identity).2.now :=
    sends'.now.trans sends.now.symm
  -- Both ask the same and are answered alike; from there on only the clock counts.
  unfold authenticate
  generalize (c.note ns).askToken k.identity = x at asked clock ⊢
  generalize c.askToken k.identity = y at asked clock ⊢
  obtain ⟨x, c₁⟩ := x
  obtain ⟨y, c₂⟩ := y
  obtain rfl : x = y := asked
  split
  · exact ⟨rfl, rfl⟩
  · cases x with
    | error f => exact ⟨rfl, rfl⟩
    | ok r => exact accept_of_now clock k r

/-- A fetch of `q` with `k`, as far as the credential is concerned. -/
structure Settles (c : Client) (q : Query) (k : Option Credential) : Prop where
  kept : (∀ j, k = some j → ¬ j.Lapsed c.now) → (c.fetch q k).2.1 = k
  left : ∀ j, k = some j → j.Lapsed c.now → (c.fetch q k).2.1 = some (c.authenticate j).2.1
  refused : ∀ j f, k = some j → j.Lapsed c.now → (c.authenticate j).1 = .error f →
    (c.fetch q k).1 = .error f ∧ (c.fetch q k).2.1 = k ∧
      ∀ r ∈ sentSince c (c.fetch q k).2.2, r.method ≠ .get
  /-- A new token stays with its expiry, whatever the reading that follows comes to. -/
  granted : ∀ j, k = some j → j.Lapsed c.now → j.identity.isComplete = true →
    (c.authenticate j).1 = .ok () →
    ∃ r e, (c.askToken j.identity).1 = .ok r ∧ r.accessToken ≠ "" ∧
      c.now.addSeconds? r.expiresIn.toInt = some e ∧
      (c.fetch q k).2.1 = some { j with token := r.accessToken, expiresAt := some e } ∧
      (c.fetch q k).1 = ((j.renewed c).2.2.readListing q (c.fetch q k).2.1).1
  anonymous : (∀ j, k = some j → j.token = "") →
    ∀ r ∈ sentSince c (c.fetch q k).2.2, r.method ≠ .post

variable {q : Query}

theorem fetch_kept (h : k.needsRenewal c.now = false) : (c.fetch q (some k)).2.1 = some k := by
  rw [fetch_of_valid h]

theorem fetch_left (h : k.needsRenewal c.now = true) :
    (c.fetch q (some k)).2.1 = some (c.authenticate k).2.1 := by
  rw [fetch_credential, Credential.renewed, if_pos h, (c.authenticate_note _ k).2]

theorem fetch_refused {f : Failure} (h : k.needsRenewal c.now = true)
    (failed : (c.authenticate k).1 = .error f) :
    (c.fetch q (some k)).1 = .error f ∧ (c.fetch q (some k)).2.1 = some k ∧
      ∀ r ∈ sentSince c (c.fetch q (some k)).2.2, r.method ≠ .get := by
  have spec := (c.note [.tokenExpired]).authenticate_spec k
  have told := (c.authenticate_note [.tokenExpired] k).1.trans failed
  rcases ha : (c.note [.tokenExpired]).authenticate k with ⟨x, k', c'⟩
  rw [ha] at spec told
  cases told
  rw [fetch_of_refused h ha]
  cases spec with
  | failed complete sends single =>
    refine ⟨rfl, rfl, fun r hr => ?_⟩
    rw [((c.note_sends _).trans sends).sentSince_eq] at hr
    have posted := Identity.method_of_tokenRequest (single.mem hr)
    rw [posted]
    decide

theorem fetch_granted (h : k.needsRenewal c.now = true) (complete : k.identity.isComplete = true)
    (succeeded : (c.authenticate k).1 = .ok ()) :
    ∃ r e, (c.askToken k.identity).1 = .ok r ∧ r.accessToken ≠ "" ∧
      c.now.addSeconds? r.expiresIn.toInt = some e ∧
      (c.fetch q (some k)).2.1 = some { k with token := r.accessToken, expiresAt := some e } ∧
      (c.fetch q (some k)).1 = ((k.renewed c).2.2.readListing q (c.fetch q (some k)).2.1).1 := by
  have spec := (c.note [.tokenExpired]).authenticate_spec k
  have told := (c.authenticate_note [.tokenExpired] k).1.trans succeeded
  rcases ha : (c.note [.tokenExpired]).authenticate k with ⟨x, k', c'⟩
  have left : (k.renewed c).2.2 = c' := by rw [Credential.renewed, if_pos h, ha]
  rw [ha] at spec told
  cases told
  rw [fetch_of_renewed h ha, left]
  cases spec with
  | skipped incomplete =>
    rw [complete] at incomplete
    cases incomplete
  | @granted r _ e _ _ _ _ answered given _ expiry =>
    have answered : (c.askToken k.identity).1 = .ok r := (c.ask_note _ _ _).symm.trans answered
    exact ⟨r, e, answered, given, expiry, rfl, rfl⟩

theorem fetch_anonymous {k : Option Credential} (h : ∀ j, k = some j → j.token = "") :
    ∀ r ∈ sentSince c (c.fetch q k).2.2, r.method ≠ .post := by
  have none : ∀ j ∈ k, j.hasToken = false := fun j hj => by simp [Credential.hasToken, h j hj]
  obtain ⟨rs, sends, single, -⟩ := c.readListing_spec q Option.none
  rw [fetch_of_no_token none, sends.sentSince_eq]
  intro r hr
  rw [(single.mem hr).method]
  decide

/-- Only an expired token makes a fetch change its credential; the credential is then what an
authentication leaves, and no failure of the reading takes it back. -/
theorem fetch_settles (c : Client) (q : Query) (k : Option Credential) : c.Settles q k where
  kept := by
    intro valid
    cases k with
    | none => rfl
    | some k => exact fetch_kept (by simpa [Credential.lapsed_iff_needsRenewal] using valid k rfl)
  left := by
    rintro j rfl lapsed
    exact fetch_left (Credential.lapsed_iff_needsRenewal.mp lapsed)
  refused := by
    rintro j f rfl lapsed failed
    exact fetch_refused (Credential.lapsed_iff_needsRenewal.mp lapsed) failed
  granted := by
    rintro j rfl lapsed complete succeeded
    exact fetch_granted (Credential.lapsed_iff_needsRenewal.mp lapsed) complete succeeded
  anonymous := fetch_anonymous

set_option maxRecDepth 4000 in
theorem fetch_settles_of_closed :
    let s := Session.sampleSession.after [.authenticate, .clock ⟨60, 0⟩]
    let q : Query := { subreddit := "lean" }
    s.credential.Lapsed s.client.now ∧ (s.client.fetch q (some s.credential)).1.isOk = false ∧
      (s.client.fetch q (some s.credential)).2.1 =
        some { s.credential with token := "second", expiresAt := some ⟨3660, 0⟩ } := by
  intro s q
  have lapsed : s.credential.Lapsed s.client.now :=
    Credential.lapsed_iff_needsRenewal.mpr (by decide +kernel)
  refine ⟨lapsed, by decide +kernel, ?_⟩
  rw [(fetch_settles s.client q (some s.credential)).left s.credential rfl lapsed]
  decide +kernel

end Client

end ForumDigest
