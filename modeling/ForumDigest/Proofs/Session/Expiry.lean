import ForumDigest.Proofs.Session.Grants

namespace ForumDigest

open Http

namespace Session

/-- No expired token leaves with a fetch. -/
structure FetchesFresh (s : Session) (q : Query) : Prop where
  current : ∀ r ∈ s.requests (.fetch q), ∀ t, r.Presents t →
    (s.next (.fetch q)).credential.token = t ∧
      ∃ e, (s.next (.fetch q)).credential.expiresAt = some e ∧ s.client.now.reached e = false
  aborted : s.credential.needsRenewal s.client.now = true → s.obtained? (.fetch q) = none →
    (∃ f, s.answer (.fetch q) = .fetched (.error f)) ∧
      ∀ r ∈ s.requests (.fetch q), r.method ≠ .get

theorem credential_of_not_obtained {s : Session} {q : Query} (h : s.obtained? (.fetch q) = none) :
    (s.next (.fetch q)).credential = s.credential := by
  rw [credential_fetch, Credential.renewed]
  rw [obtained?] at h
  split at h
  · rename_i hr
    rw [if_pos hr]
    rcases (s.client.note [.tokenExpired]).authenticate_holds s.credential with ⟨-, hk⟩ | ⟨r, ho, -⟩
    · exact hk
    · rw [ho] at h
      cases h
  · rename_i hr
    rw [if_neg hr]

section Fetch

variable {s : Session} {q : Query} {x : Except Failure (List Post)} {k : Credential} {c : Client}
  {rs : List Request}

theorem step_fetch (h : s.client.fetch q (some s.credential) = (x, some k, c)) :
    s.step (.fetch q) = (.fetched x, ⟨c, k⟩) := by
  simp only [step, h, Option.getD_some]

theorem requests_fetch (h : s.client.fetch q (some s.credential) = (x, some k, c))
    (sends : Client.Sends s.client rs c) : s.requests (.fetch q) = rs := by
  rw [requests, next, step_fetch h]
  exact sends.sentSince_eq

/-- A fetch is fresh if all that it reads with is a token that is still valid, and it fails without
reading where it renews nothing that has expired. -/
theorem fetchesFresh_of_outcome (h : s.client.fetch q (some s.credential) = (x, some k, c))
    (sends : Client.Sends s.client rs c)
    (current : ∀ r ∈ rs, ∀ t, r.Presents t →
      k.token = t ∧ ∃ e, k.expiresAt = some e ∧ s.client.now.reached e = false)
    (aborted : s.credential.needsRenewal s.client.now = true → s.obtained? (.fetch q) = none →
      (∃ f, x = .error f) ∧ ∀ r ∈ rs, r.method ≠ .get) : s.FetchesFresh q := by
  have hs := step_fetch h
  have hr := requests_fetch h sends
  constructor
  · rw [hr, next, hs]
    exact current
  · intro expired none
    obtain ⟨⟨f, hf⟩, hm⟩ := aborted expired none
    rw [hr, answer, hs, hf]
    exact ⟨⟨f, rfl⟩, hm⟩

theorem fetchesFresh_of_renewable {e : Instant} (held : s.credential.hasToken = true)
    (he : s.credential.expiresAt = some e)
    (renewable : s.credential.isExpired s.client.now = true →
      s.credential.identity.isComplete = true) : s.FetchesFresh q := by
  rcases hf : s.client.fetch q (some s.credential) with ⟨x, k', c'⟩
  have outcome := s.client.fetch_spec q s.credential
  rw [hf] at outcome
  cases outcome with
  | read valid sends single =>
    have fresh : s.client.now.reached e = false := by
      simpa [Credential.needsRenewal, held, Credential.isExpired, he] using valid
    rw [s.client.access_of_hasToken held] at single
    refine fetchesFresh_of_outcome hf sends ?_ (by simp [valid])
    intro r hr t ht
    exact ⟨(single.mem hr).token_eq ht, e, he, fresh⟩
  | @refused f rs _ _ _ _ sends single =>
    have posted : ∀ r ∈ rs, r.method ≠ .get := fun r hr =>
      Identity.method_of_tokenRequest (single.mem hr) ▸ by decide
    refine fetchesFresh_of_outcome hf sends ?_ fun _ _ => ⟨⟨_, rfl⟩, posted⟩
    exact fun r hr t ht => absurd ht.reads (posted r hr)
  | @renewed _ r p rs e' _ expired _ sends prepared _ _ positive expiry single =>
    have fresh := Instant.reached_addSeconds? positive expiry
    refine fetchesFresh_of_outcome hf sends ?_ ?_
    · intro r' hr t ht
      obtain rfl | hr := List.mem_cons.mp hr
      · exact absurd ht.reads (Identity.method_of_tokenRequest prepared ▸ by decide)
      · exact ⟨(single.mem hr).token_eq ht, e', rfl, fresh⟩
    · -- The new token is valid, so it is not the one from before.
      intro _ none
      have kept := credential_of_not_obtained none
      rw [next, step_fetch hf] at kept
      have stale := Credential.isExpired_of_needsRenewal expired
      rw [← kept, Credential.isExpired, Option.any_some, fresh] at stale
      cases stale
  | lapsed expired incomplete =>
    have complete := renewable (Credential.isExpired_of_needsRenewal expired)
    rw [incomplete] at complete
    cases complete

/-- With an expired token that cannot be renewed a fetch is fresh only if it sends nothing. -/
theorem fetchesFresh_iff_of_lapsed (expired : s.credential.needsRenewal s.client.now = true)
    (incomplete : s.credential.identity.isComplete = false) :
    s.FetchesFresh q ↔ s.requests (.fetch q) = [] := by
  rcases hf : s.client.fetch q (some s.credential) with ⟨x, k', c'⟩
  obtain ⟨rs, rfl, sends, single, silent⟩ :=
    Client.fetch_of_lapsed expired incomplete hf
  rw [requests_fetch hf sends]
  constructor
  · intro fresh
    obtain rfl | ⟨r, hr, rfl⟩ := single
    · rfl
    · have sent : r ∈ s.requests (.fetch q) := by simp [requests_fetch hf sends]
      obtain ⟨-, e, he, valid⟩ := fresh.current r sent _ hr.presents
      have stale := Credential.isExpired_of_needsRenewal expired
      rw [next, step_fetch hf] at he
      rw [Credential.isExpired, he, Option.any_some, valid] at stale
      cases stale
  · rintro rfl
    exact fetchesFresh_of_outcome hf sends (by simp) fun _ _ => ⟨silent rfl, by simp⟩

end Fetch

/-- An expired token is sent by a fetch if and only if the identity is not complete and anything is
sent at all. -/
theorem fetchesFresh_iff {s : Session} (reachable : s.Reachable)
    (held : s.credential.hasToken = true) (q : Query) :
    s.FetchesFresh q ↔
      (s.credential.isExpired s.client.now = true →
        s.credential.identity.isComplete = true ∨ s.requests (.fetch q) = []) := by
  obtain ⟨e, he⟩ : ∃ e, s.credential.expiresAt = some e := by
    obtain ⟨g, hg⟩ := reachable.holds
    exact Option.ne_none_iff_exists'.mp (hg.hasToken_iff.mp (of_decide_eq_true held))
  by_cases renewable : s.credential.isExpired s.client.now = true →
      s.credential.identity.isComplete = true
  · exact iff_of_true (fetchesFresh_of_renewable held he renewable) fun h => .inl (renewable h)
  · obtain ⟨stale, incomplete⟩ := Classical.not_imp.mp renewable
    have expired : s.credential.needsRenewal s.client.now = true := by
      rw [Credential.needsRenewal, held, stale, Bool.and_self]
    rw [fetchesFresh_iff_of_lapsed expired (Bool.eq_false_iff.mpr incomplete)]
    simp [stale, incomplete]

set_option maxRecDepth 4000 in
theorem fetchesFresh_of_complete :
    let s := sampleSession.after [.authenticate, .clock ⟨60, 0⟩]
    s.Reachable ∧ s.credential.hasToken = true ∧
      s.credential.isExpired s.client.now = true ∧ s.FetchesFresh { subreddit := "lean" } := by
  intro s
  have reachable : s.Reachable := reachable_of_sample _
  have held : s.credential.hasToken = true := by decide +kernel
  have complete : s.credential.identity.isComplete = true := by decide +kernel
  exact ⟨reachable, held, by decide +kernel,
    (fetchesFresh_iff reachable held _).mpr fun _ => .inl complete⟩

def sampleBlanked : Session :=
  sampleSession.after [.authenticate, .clock ⟨60, 0⟩,
    .edit { clientId := "id", clientSecret := "secret", username := "user" }]

set_option maxRecDepth 4000 in
/-- The token `first` is sent when it has expired, since without a password it is not renewed. -/
theorem not_fetchesFresh_of_blanked_password :
    sampleBlanked.Reachable ∧ sampleBlanked.credential.hasToken = true ∧
      ¬ sampleBlanked.FetchesFresh { subreddit := "lean" } := by
  refine ⟨reachable_of_sample _, by decide +kernel, fun fresh => ?_⟩
  obtain ⟨r, hr, reads, bearer⟩ : ∃ r ∈ sampleBlanked.requests (.fetch { subreddit := "lean" }),
      r.method = .get ∧ ("authorization", "bearer " ++ "first") ∈ r.headers := by
    decide +kernel
  obtain ⟨-, e, he, valid⟩ := fresh.current r hr "first" ⟨reads, bearer⟩
  have expiry : (sampleBlanked.next (.fetch { subreddit := "lean" })).credential.expiresAt =
      some ⟨60, 0⟩ := by decide +kernel
  have now : sampleBlanked.client.now = ⟨60, 0⟩ := by decide +kernel
  rw [expiry] at he
  obtain rfl := Option.some.inj he
  rw [now] at valid
  exact absurd valid (by decide)

end Session

end ForumDigest
