import ForumDigest.Proofs.Session.Basic

namespace ForumDigest

open Http

/-- The identities differ in their secrets only, and in neither is a secret missing alone. -/
structure Identity.Alike (i₁ i₂ : Identity) : Prop where
  clientId : i₁.clientId = i₂.clientId
  username : i₁.username = i₂.username
  userAgent : i₁.userAgent = i₂.userAgent
  clientSecret : i₁.clientSecret = "" ↔ i₂.clientSecret = ""
  password : i₁.password = "" ↔ i₂.password = ""

structure Credential.Alike (k₁ k₂ : Credential) : Prop where
  identity : k₁.identity.Alike k₂.identity
  expiresAt : k₁.expiresAt = k₂.expiresAt
  token : k₁.token = "" ↔ k₂.token = ""

/-- The clients differ in the secrets of what they sent only. -/
structure Client.Alike (c₁ c₂ : Client) : Prop where
  endpoints : c₁.endpoints = c₂.endpoints
  now : c₁.now = c₂.now
  awaited : c₁.awaited = c₂.awaited
  sent : c₁.sent.map Request.masked = c₂.sent.map Request.masked
  log : c₁.log = c₂.log

namespace Identity

variable {i₁ i₂ : Identity}

theorem Alike.refl (i : Identity) : i.Alike i := ⟨rfl, rfl, rfl, .rfl, .rfl⟩

theorem Alike.isComplete (h : i₁.Alike i₂) : i₁.isComplete = i₂.isComplete := by
  simp only [Identity.isComplete, ne_eq, h.clientId, h.username, h.clientSecret, h.password]

theorem Alike.agent (h : i₁.Alike i₂) : i₁.agent = i₂.agent := by
  simp only [Identity.agent, h.username, h.userAgent]

theorem Alike.tokenRequest (h : i₁.Alike i₂) (url : String) :
    (i₁.tokenRequest url).map Request.masked = (i₂.tokenRequest url).map Request.masked := by
  unfold Identity.tokenRequest
  split
  · rfl
  · apply prepare_masked
    · simp [maskHeader, basicAuthorization, h.agent]
    · simp only [List.all_cons, isHeaderValue_basicAuthorization, h.agent]
    · exact .inl rfl

end Identity

namespace Client

variable {α : Type} {c₁ c₂ : Client}

theorem Alike.refl (c : Client) : c.Alike c := ⟨rfl, rfl, rfl, rfl, rfl⟩

theorem Alike.note (h : c₁.Alike c₂) (ns : List Notice) : (c₁.note ns).Alike (c₂.note ns) :=
  ⟨h.endpoints, h.now, h.awaited, h.sent, congrArg (· ++ ns) h.log⟩

theorem Alike.send (h : c₁.Alike c₂) {r₁ r₂ : Request} (hr : r₁.masked = r₂.masked) :
    (c₁.send r₁).1 = (c₂.send r₂).1 ∧ (c₁.send r₁).2.Alike (c₂.send r₂).2 := by
  have hu : r₁.url = r₂.url := by simpa only [Request.masked] using congrArg Request.url hr
  have hn : c₁.nextReply = c₂.nextReply := by rw [nextReply, nextReply, h.awaited]
  refine ⟨?_, h.endpoints, h.now, ?_, ?_, ?_⟩
  · simp only [Client.send, hu, hn]
  · simp only [Client.send, h.awaited]
  · simp only [Client.send, hn]
    split
    · exact h.sent
    · simp only [List.map_append, h.sent, List.map_cons, hr]
  · simp only [Client.send, hu, hn, h.log]

theorem Alike.ask (h : c₁.Alike c₂) (reader : Json.Reader α) {r₁ r₂ : Except NetworkFault Request}
    (hr : r₁.map Request.masked = r₂.map Request.masked) :
    (c₁.ask reader r₁).1 = (c₂.ask reader r₂).1 ∧
      (c₁.ask reader r₁).2.Alike (c₂.ask reader r₂).2 := by
  cases r₁ with
  | error f₁ =>
    cases r₂ with
    | error f₂ =>
      cases hr
      exact ⟨rfl, h.note _⟩
    | ok r₂ => cases hr
  | ok r₁ =>
    cases r₂ with
    | error f₂ => cases hr
    | ok r₂ =>
      obtain ⟨hs, hc⟩ := h.send (Except.ok.inj hr)
      rw [ask_of_prepared, ask_of_prepared, hs]
      exact ⟨rfl, hc⟩

end Client

/-- Two credentials that are alike, and whose tokens can both be written in a header or neither. -/
structure Credential.Indistinct (k₁ k₂ : Credential) : Prop extends k₁.Alike k₂ where
  legal : isHeaderValue k₁.token = isHeaderValue k₂.token

/-- Two runs of an operation on a credential tell the same and leave no difference but secrets. -/
structure SameOutcome {α : Type} (x y : α × Credential × Client) : Prop where
  result : x.1 = y.1
  credential : x.2.1.Indistinct y.2.1
  client : x.2.2.Alike y.2.2

namespace Client

variable {c₁ c₂ : Client} {k₁ k₂ : Credential}

theorem Alike.askToken (h : c₁.Alike c₂) {i₁ i₂ : Identity} (hi : i₁.Alike i₂) :
    (c₁.askToken i₁).1 = (c₂.askToken i₂).1 ∧ (c₁.askToken i₁).2.Alike (c₂.askToken i₂).2 := by
  refine h.ask TokenReply.read ?_
  rw [h.endpoints]
  exact hi.tokenRequest _

theorem Alike.accept (h : c₁.Alike c₂) (hk : k₁.Indistinct k₂) (r : TokenReply) :
    SameOutcome (c₁.accept k₁ r) (c₂.accept k₂ r) := by
  unfold Client.accept
  rw [h.now]
  split
  · exact ⟨rfl, hk, h⟩
  · split
    · exact ⟨rfl, hk, h⟩
    · split
      · exact ⟨rfl, hk, h.note _⟩
      · refine ⟨rfl, ⟨⟨hk.identity, rfl, .rfl⟩, rfl⟩, ?_⟩
        rw [hk.identity.username]
        exact h.note _

theorem Alike.authenticate (h : c₁.Alike c₂) (hk : k₁.Indistinct k₂) :
    SameOutcome (c₁.authenticate k₁) (c₂.authenticate k₂) := by
  unfold Client.authenticate
  rw [hk.identity.isComplete]
  split
  · exact ⟨rfl, hk, h.note _⟩
  · obtain ⟨hr, hc⟩ := h.askToken hk.identity
    rcases h₁ : c₁.askToken k₁.identity with ⟨x, c₁'⟩
    rcases h₂ : c₂.askToken k₂.identity with ⟨y, c₂'⟩
    rw [h₁, h₂] at hr hc
    obtain rfl : x = y := hr
    cases x with
    | error f => exact ⟨rfl, hk, hc⟩
    | ok r => exact hc.accept hk r

/-- Listings are read in the same place, with headers that differ in their authorization only. -/
structure SameAccess (a b : String × Headers) : Prop where
  base : a.1 = b.1
  headers : a.2.map maskHeader = b.2.map maskHeader
  legal : (a.2.all fun h => isHeaderValue h.2) = b.2.all fun h => isHeaderValue h.2

theorem Alike.access (h : c₁.Alike c₂) (hk : k₁.Indistinct k₂) :
    SameAccess (c₁.access (some k₁)) (c₂.access (some k₂)) := by
  have ht : k₁.hasToken = k₂.hasToken := by simp only [Credential.hasToken, ne_eq, hk.token]
  cases hh : k₂.hasToken with
  | false =>
    rw [c₁.access_of_no_token (by simp [ht, hh]), c₂.access_of_no_token (by simp [hh])]
    exact ⟨by simp only [h.endpoints], rfl, rfl⟩
  | true =>
    rw [c₁.access_of_hasToken (ht.trans hh), c₂.access_of_hasToken hh]
    refine ⟨by simp only [h.endpoints], ?_, ?_⟩
    · simp [Credential.headers, maskHeader, hk.identity.agent]
    · simp only [Credential.headers, List.all_cons, isHeaderValue_append, hk.legal,
        hk.identity.agent]

theorem Alike.askListing (h : c₁.Alike c₂) (q : Query) {k₁ k₂ : Option Credential}
    (ha : SameAccess (c₁.access k₁) (c₂.access k₂)) :
    (c₁.askListing q k₁).1 = (c₂.askListing q k₂).1 ∧
      (c₁.askListing q k₁).2.Alike (c₂.askListing q k₂).2 := by
  unfold Client.askListing
  dsimp only
  rw [ha.base]
  split
  · exact ⟨rfl, h⟩
  · exact (h.note _).ask Listing.read (prepare_masked ha.headers ha.legal (.inr rfl))

theorem Alike.takePosts (h : c₁.Alike c₂) (q : Query) (l : Listing) :
    (c₁.takePosts q l).1 = (c₂.takePosts q l).1 ∧
      (c₁.takePosts q l).2.Alike (c₂.takePosts q l).2 := by
  unfold Client.takePosts
  rw [h.endpoints]
  split
  · exact ⟨rfl, h⟩
  · exact ⟨rfl, h.note _⟩

theorem Alike.readListing (h : c₁.Alike c₂) (q : Query) {k₁ k₂ : Option Credential}
    (ha : SameAccess (c₁.access k₁) (c₂.access k₂)) :
    (c₁.readListing q k₁).1 = (c₂.readListing q k₂).1 ∧
      (c₁.readListing q k₁).2.Alike (c₂.readListing q k₂).2 := by
  obtain ⟨hr, hc⟩ := h.askListing q ha
  unfold Client.readListing
  rcases h₁ : c₁.askListing q k₁ with ⟨x, c₁'⟩
  rcases h₂ : c₂.askListing q k₂ with ⟨y, c₂'⟩
  rw [h₁, h₂] at hr hc
  obtain rfl : x = y := hr
  cases x with
  | error f => exact ⟨rfl, hc⟩
  | ok l => exact hc.takePosts q l

theorem Alike.renewed (h : c₁.Alike c₂) (hk : k₁.Indistinct k₂) :
    SameOutcome (k₁.renewed c₁) (k₂.renewed c₂) := by
  have hn : k₁.needsRenewal c₁.now = k₂.needsRenewal c₂.now := by
    simp only [Credential.needsRenewal, Credential.hasToken, Credential.isExpired, ne_eq, hk.token,
      hk.expiresAt, h.now]
  unfold Credential.renewed
  rw [hn]
  split
  · exact (h.note _).authenticate hk
  · exact ⟨rfl, hk, h⟩

end Client

namespace Session

variable {s₁ s₂ : Session}

structure Alike (s₁ s₂ : Session) : Prop where
  client : s₁.client.Alike s₂.client
  credential : s₁.credential.Indistinct s₂.credential

theorem Alike.step_fetch (h : s₁.Alike s₂) (q : Query) :
    s₁.answer (.fetch q) = s₂.answer (.fetch q) ∧
      (s₁.next (.fetch q)).Alike (s₂.next (.fetch q)) := by
  have hr := h.client.renewed h.credential
  simp only [answer, next, step, Client.fetch]
  rcases h₁ : s₁.credential.renewed s₁.client with ⟨x, k₁, c₁⟩
  rcases h₂ : s₂.credential.renewed s₂.client with ⟨y, k₂, c₂⟩
  rw [h₁, h₂] at hr
  obtain rfl : x = y := hr.result
  cases x with
  | error f => exact ⟨rfl, hr.client, hr.credential⟩
  | ok u =>
    obtain ⟨hx, hc⟩ := hr.client.readListing q (hr.client.access hr.credential)
    dsimp only [Option.getD_some]
    exact ⟨congrArg Answer.fetched hx, hc, hr.credential⟩

/-- An action tells the caller the same in both sessions and leaves no difference but secrets. -/
theorem Alike.step (h : s₁.Alike s₂) (a : Action) :
    s₁.answer a = s₂.answer a ∧ (s₁.next a).Alike (s₂.next a) := by
  cases a with
  | authenticate =>
    have ha := h.client.authenticate h.credential
    exact ⟨congrArg Answer.authenticated ha.result, ha.client, ha.credential⟩
  | fetch q => exact h.step_fetch q
  | browse q =>
    have ha : Client.SameAccess (s₁.client.access none) (s₂.client.access none) :=
      ⟨congrArg Endpoints.publicBase h.client.endpoints, rfl, rfl⟩
    obtain ⟨hx, hc⟩ := h.client.readListing q ha
    rw [answer, answer, next, next, step_browse, step_browse]
    exact ⟨congrArg Answer.fetched hx, hc, h.credential⟩
  | edit i =>
    exact ⟨rfl, h.client, ⟨⟨.refl i, h.credential.expiresAt, h.credential.token⟩, h.credential.legal⟩⟩
  | clock t =>
    exact ⟨rfl, ⟨h.client.endpoints, rfl, h.client.awaited, h.client.sent, h.client.log⟩,
      h.credential⟩

theorem Alike.run (h : s₁.Alike s₂) (as : List Action) :
    s₁.answers as = s₂.answers as ∧ (s₁.after as).Alike (s₂.after as) := by
  induction as generalizing s₁ s₂ with
  | nil => exact ⟨rfl, h⟩
  | cons a as ih =>
    obtain ⟨ha, hn⟩ := h.step a
    obtain ⟨hs, hl⟩ := ih hn
    exact ⟨by rw [answers, answers, ha, hs], hl⟩

/-- Two credentials that differ in their secrets only are used with the same client and against the
same replies. Then all that the caller is told and all that is logged is the same, and what is sent
differs in authorization and the bodies of forms at most. -/
theorem answers_eq_of_alike {k₁ k₂ : Credential} (alike : k₁.Alike k₂)
    (legal₁ : isHeaderValue k₁.token = true) (legal₂ : isHeaderValue k₂.token = true)
    (c : Client) (as : List Action) :
    let s₁ : Session := ⟨c, k₁⟩
    let s₂ : Session := ⟨c, k₂⟩
    s₁.answers as = s₂.answers as ∧
      (s₁.after as).client.log = (s₂.after as).client.log ∧
      (s₁.after as).client.sent.map Request.masked =
        (s₂.after as).client.sent.map Request.masked := by
  intro s₁ s₂
  have start : s₁.Alike s₂ := ⟨.refl c, ⟨alike, legal₁.trans legal₂.symm⟩⟩
  obtain ⟨ha, hl⟩ := start.run as
  exact ⟨ha, hl.client.log, hl.client.sent⟩

def sampleCredential (mark : String) : Credential where
  identity :=
    { clientId := "id", clientSecret := mark, username := "user", password := mark }
  token := mark
  expiresAt := some .epoch

def sampleFailing : Client where
  endpoints := .rootedAt "http://forum.test"
  awaited := [.response { status := 500 }, sampleGrant "first" 60, .closed]

set_option maxRecDepth 4000 in
theorem sent_ne_of_marks :
    let as : List Action := [.fetch { subreddit := "lean" }, .fetch { subreddit := "lean" }]
    (after ⟨sampleFailing, sampleCredential "a"⟩ as).client.sent ≠
      (after ⟨sampleFailing, sampleCredential "b"⟩ as).client.sent := by
  decide +kernel

theorem answers_eq_of_marks :
    let as : List Action := [.fetch { subreddit := "lean" }, .fetch { subreddit := "lean" }]
    let s₁ : Session := ⟨sampleFailing, sampleCredential "a"⟩
    let s₂ : Session := ⟨sampleFailing, sampleCredential "b"⟩
    (sampleCredential "a").Alike (sampleCredential "b") ∧
      isHeaderValue (sampleCredential "a").token = true ∧
      isHeaderValue (sampleCredential "b").token = true ∧
      (s₁.after as).client.sent ≠ (s₂.after as).client.sent ∧
      s₁.answers as = s₂.answers as ∧
      (s₁.after as).client.log = (s₂.after as).client.log ∧
      (s₁.after as).client.sent.map Request.masked =
        (s₂.after as).client.sent.map Request.masked := by
  have alike : (sampleCredential "a").Alike (sampleCredential "b") :=
    ⟨⟨rfl, rfl, rfl, by decide, by decide⟩, rfl, by decide⟩
  have legal₁ : isHeaderValue (sampleCredential "a").token = true := by decide
  have legal₂ : isHeaderValue (sampleCredential "b").token = true := by decide
  exact ⟨alike, legal₁, legal₂, sent_ne_of_marks,
    answers_eq_of_alike alike legal₁ legal₂ sampleFailing _⟩

end Session

end ForumDigest
