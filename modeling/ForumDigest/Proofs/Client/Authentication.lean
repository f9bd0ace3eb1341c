import ForumDigest.Client.Authentication
import ForumDigest.Proofs.Calendar.Date
import ForumDigest.Proofs.Client.Exchange

namespace ForumDigest

open Http

/-- `t` comes before `u`, and less than a second before it only in the same second. -/
theorem Instant.reached_eq_false_iff (t u : Instant) :
    t.reached u = false ↔ t.seconds < u.seconds ∨ t.seconds = u.seconds ∧ t.nanos < u.nanos := by
  simp only [reached, Bool.or_eq_false_iff, Bool.and_eq_false_iff, decide_eq_false_iff_not]
  omega

theorem Instant.reached_addSeconds? {t u : Instant} {n : Int64} (hn : 0 < n)
    (h : t.addSeconds? n.toInt = some u) : t.reached u = false := by
  have pos : 0 < n.toInt := by simpa using Int64.lt_iff_toInt_lt.mp hn
  rw [(addSeconds?_eq_some_iff.mp h).2, reached_eq_false_iff]
  exact .inl (Int.lt_add_of_pos_right t.seconds pos)

namespace Client

variable {c c' : Client} {k : Credential} {rs : List Request}

theorem askToken_sends (c : Client) (i : Identity) :
    ∃ rs, Sends c rs (c.askToken i).2 ∧
      AtMostOne (i.tokenRequest c.endpoints.tokenUrl = .ok ·) rs :=
  c.ask_sends TokenReply.read (i.tokenRequest c.endpoints.tokenUrl)

theorem askToken_sends_of_ok {i : Identity} {r : TokenReply} (h : (c.askToken i).1 = .ok r) :
    ∃ p, i.tokenRequest c.endpoints.tokenUrl = .ok p ∧ Sends c [p] (c.askToken i).2 :=
  ask_sends_of_ok h

/-- The outcomes of an authentication, each with what it leaves of the credential and the client. -/
inductive Authenticates (c : Client) (k : Credential) :
    Except Failure Unit × Credential × Client → Prop where
  | skipped (incomplete : k.identity.isComplete = false) :
      Authenticates c k (.ok (), k, c.note [.identityIncomplete])
  | failed {f : Failure} {rs : List Request} {c' : Client}
      (complete : k.identity.isComplete = true) (sends : Sends c rs c')
      (single : AtMostOne (k.identity.tokenRequest c.endpoints.tokenUrl = .ok ·) rs) :
      Authenticates c k (.error f, k, c')
  | granted {r : TokenReply} {p : Request} {e : Instant} {c' : Client}
      (complete : k.identity.isComplete = true) (sends : Sends c [p] c')
      (prepared : k.identity.tokenRequest c.endpoints.tokenUrl = .ok p)
      (answered : (c.askToken k.identity).1 = .ok r) (given : r.accessToken ≠ "")
      (positive : 0 < r.expiresIn) (expiry : c.now.addSeconds? r.expiresIn.toInt = some e) :
      Authenticates c k (.ok (), { k with token := r.accessToken, expiresAt := some e }, c')

theorem accept_spec (c : Client) (k : Credential) (r : TokenReply) :
    (∃ f ns, c.accept k r = (.error f, k, c.note ns)) ∨
    ∃ e ns, r.accessToken ≠ "" ∧ 0 < r.expiresIn ∧ c.now.addSeconds? r.expiresIn.toInt = some e ∧
      c.accept k r = (.ok (), { k with token := r.accessToken, expiresAt := some e }, c.note ns) := by
  unfold accept
  split
  · exact .inl ⟨_, [], by rw [note_nil]⟩
  · split
    · exact .inl ⟨_, [], by rw [note_nil]⟩
    · split
      · exact .inl ⟨_, _, rfl⟩
      · exact .inr ⟨_, _, ‹_›, Int64.not_le.mp ‹_›, ‹_›, rfl⟩

theorem authenticate_spec (c : Client) (k : Credential) : Authenticates c k (c.authenticate k) := by
  unfold authenticate
  by_cases complete : k.identity.isComplete = true
  · rw [if_neg (by simp [complete])]
    rcases ha : c.askToken k.identity with ⟨f | r, c'⟩
    · obtain ⟨rs, sends, single⟩ := c.askToken_sends k.identity
      rw [ha] at sends
      exact .failed complete sends single
    · have answered : (c.askToken k.identity).1 = .ok r := by rw [ha]
      obtain ⟨p, prepared, sends⟩ := askToken_sends_of_ok answered
      rw [ha] at sends
      dsimp only
      rcases c'.accept_spec k r with ⟨f, ns, h⟩ | ⟨e, ns, given, positive, expiry, h⟩
      · rw [h]
        exact .failed complete (sends.note ns) (.inr ⟨p, prepared, rfl⟩)
      · rw [sends.now] at expiry
        rw [h]
        exact .granted complete (sends.note ns) prepared answered given positive expiry
  · rw [if_pos (by simp [complete])]
    exact .skipped (by simpa using complete)

theorem authenticate_sends (c : Client) (k : Credential) :
    ∃ rs, Sends c rs (c.authenticate k).2.2 ∧
      AtMostOne (k.identity.tokenRequest c.endpoints.tokenUrl = .ok ·) rs := by
  have h := c.authenticate_spec k
  generalize c.authenticate k = x at h ⊢
  cases h with
  | skipped => exact ⟨[], c.note_sends _, .inl rfl⟩
  | failed _ sends single => exact ⟨_, sends, single⟩
  | granted _ sends prepared => exact ⟨_, sends, .inr ⟨_, prepared, rfl⟩⟩

end Client

end ForumDigest
