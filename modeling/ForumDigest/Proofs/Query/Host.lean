import ForumDigest.Proofs.Client.Fetch
import ForumDigest.Proofs.Query.Location

namespace ForumDigest

open Http Url

/-- A URL of the listing that stays on the base, and that is read as it is written. -/
structure Query.Located (q : Query) (base : String) (u : Url) : Prop where
  built : q.requestUrl base = .ok u.text
  inside : (base ++ "/").toList <+: u.text.toList
  read : Url.parse u.text = .ok u
  host : ∃ b, Url.parse base = .ok b ∧ u.scheme = b.scheme ∧ u.authority = b.authority

theorem Http.Reply.read_ne_url (url : Url) (r : Reply) (e : ParseError) :
    (r.read url).2 ≠ .error (.url e) := by
  cases r with
  | unreachable => simp [Reply.read, refuse]
  | closed => simp [Reply.read, refuse]
  | silent => simp [Reply.read]
  | response r =>
    simp only [Reply.read, Response.read]
    split
    · cases r.text <;> simp [Except.mapError]
    · simp

namespace Client

variable {α : Type} {c : Client} {q : Query} {e : ParseError}

theorem ask_ne_url (c : Client) (reader : Json.Reader α) (r : Except NetworkFault Request)
    (e : ParseError) : (c.ask reader r).1 ≠ .error (.url e) := by
  cases r with
  | error f => simp [ask]
  | ok r =>
    have sent : (c.send r).1 ≠ .error (.url e) := c.nextReply.read_ne_url r.url e
    rw [ask_of_prepared]
    cases h : (c.send r).1 with
    | error f => simpa [Except.bind, h] using sent
    | ok text =>
      dsimp only [Except.bind]
      cases Json.decode reader text <;> simp [Except.mapError]

theorem accept_ne_url (c : Client) (k : Credential) (r : TokenReply) (e : ParseError) :
    (c.accept k r).1 ≠ .error (.url e) := by
  unfold accept
  split
  · simp
  · split
    · simp
    · split <;> simp

theorem authenticate_ne_url (c : Client) (k : Credential) (e : ParseError) :
    (c.authenticate k).1 ≠ .error (.url e) := by
  unfold authenticate
  split
  · simp
  · have asked : (c.askToken k.identity).1 ≠ .error (.url e) := c.ask_ne_url _ _ e
    rcases ha : c.askToken k.identity with ⟨f | r, c'⟩
    · simpa [ha] using asked
    · exact c'.accept_ne_url k r e

theorem renewed_ne_url (c : Client) (k : Credential) (e : ParseError) :
    (k.renewed c).1 ≠ .error (.url e) := by
  unfold Credential.renewed
  split
  · exact (c.note _).authenticate_ne_url k e
  · simp

theorem target_of_readListing {k : Option Credential}
    (h : (c.readListing q k).1 = .error (.url e)) : q.target (c.access k).1 = .error e := by
  unfold readListing at h
  rcases ha : c.askListing q k with ⟨f | l, c'⟩
  · rw [ha] at h
    obtain rfl : f = .url e := Except.error.inj h
    unfold askListing at ha
    dsimp only at ha
    split at ha
    · rename_i e' ht
      cases ha
      exact ht
    · have asked := ask_ne_url _ _ _ e (congrArg Prod.fst ha)
      exact asked.elim
  · rw [ha] at h
    simp only [takePosts] at h
    split at h <;> cases h

theorem access_renewed (c : Client) (k : Credential) :
    ((k.renewed c).2.2.access (some (k.renewed c).2.1)).1 = (c.access (some k)).1 := by
  cases hr : k.needsRenewal c.now with
  | false => simp only [Credential.renewed, hr, Bool.false_eq_true, if_false]
  | true =>
    have token := Credential.hasToken_of_needsRenewal hr
    have outcome := (c.note [.tokenExpired]).authenticate_spec k
    rw [Credential.renewed, if_pos hr, c.access_of_hasToken token]
    rcases ha : (c.note [.tokenExpired]).authenticate k with ⟨x, k', c'⟩
    rw [ha] at outcome
    cases outcome with
    | skipped =>
      rw [access_of_hasToken _ token]
      rfl
    | failed _ sends =>
      rw [access_of_hasToken _ token]
      exact congrArg Endpoints.oauthBase sends.endpoints
    | granted _ sends _ _ given =>
      rw [access_of_hasToken _ (decide_eq_true given)]
      exact congrArg Endpoints.oauthBase sends.endpoints

theorem target_of_fetch {k : Option Credential} (h : (c.fetch q k).1 = .error (.url e)) :
    q.target (c.access k).1 = .error e := by
  cases k with
  | none => exact target_of_readListing h
  | some k =>
    have renewal := c.renewed_ne_url k e
    rw [← c.access_renewed k]
    unfold fetch at h
    rcases hr : k.renewed c with ⟨f | _, k', c'⟩
    · simp only [hr] at h renewal
      rw [Except.error.inj h] at renewal
      exact absurd rfl renewal
    · simp only [hr] at h
      exact target_of_readListing h

theorem reads_of_fetch {k : Option Credential} {r : Request}
    (h : r ∈ sentSince c (c.fetch q k).2.2) (get : r.method = .get) :
    ∃ headers, q.Reads (c.access k).1 headers r := by
  have not_asked {p : Request} {i : Identity} (hp : i.tokenRequest c.endpoints.tokenUrl = .ok p) :
      p.method ≠ .get := by
    rw [Identity.method_of_tokenRequest hp]
    decide
  cases k with
  | none =>
    obtain ⟨rs, sends, single, -⟩ := c.readListing_spec q none
    change r ∈ sentSince c (c.readListing q none).2 at h
    rw [sends.sentSince_eq] at h
    exact ⟨_, single.mem h⟩
  | some k =>
    have outcome := c.fetch_spec q k
    rcases hf : c.fetch q (some k) with ⟨x, k', c'⟩
    rw [hf] at h outcome
    cases outcome with
    | read _ sends single =>
      rw [sends.sentSince_eq] at h
      exact ⟨_, single.mem h⟩
    | refused _ _ _ sends single =>
      rw [sends.sentSince_eq] at h
      exact (not_asked (single.mem h) get).elim
    | renewed expired _ sends prepared _ _ _ _ single =>
      rw [sends.sentSince_eq, List.mem_cons] at h
      obtain rfl | h := h
      · exact (not_asked prepared get).elim
      · rw [c.access_of_hasToken (Credential.hasToken_of_needsRenewal expired)]
        exact ⟨_, single.mem h⟩
    | lapsed expired _ sends single =>
      rw [sends.sentSince_eq] at h
      rw [c.access_of_hasToken (Credential.hasToken_of_needsRenewal expired)]
      exact ⟨_, single.mem h⟩

variable {c' : Client} {k k' : Option Credential} {url : Url} {p : Request}

/-- With this credential and this client a fetch goes on to read the listing: the renewal, if there
is one, does not fail. -/
inductive Renews (c : Client) : Option Credential → Option Credential → Client → Prop where
  | without : Renews c none none c
  | credential {k k' : Credential} {c' : Client} (renewed : k.renewed c = (.ok (), k', c')) :
      Renews c (some k) (some k') c'

theorem Renews.fetch_eq (h : c.Renews k k' c') (q : Query) :
    c.fetch q k = ((c'.readListing q k').1, k', (c'.readListing q k').2) := by
  cases h with
  | without => rfl
  | credential renewed => simp only [fetch, renewed]

theorem Renews.sends (h : c.Renews k k' c') : ∃ rs, Sends c rs c' := by
  cases h with
  | without => exact ⟨[], .refl c⟩
  | @credential k _ _ renewed =>
    have sends := c.renewed_sends k
    rwa [renewed] at sends

theorem Renews.access_eq (h : c.Renews k k' c') : (c'.access k').1 = (c.access k).1 := by
  cases h with
  | without => rfl
  | @credential k _ _ renewed =>
    have access := c.access_renewed k
    rwa [renewed] at access

/-- A listing whose request is prepared is asked for, unless its host is out of reach. -/
theorem readListing_sends_of_prepared (target : q.target (c.access k).1 = .ok url)
    (prepared : Request.prepare .get url (c.access k).2 "" = .ok p)
    (reachable : c.nextReply ≠ .unreachable) : Sends c [p] (c.readListing q k).2 := by
  have asked : Sends c [p] (c.askListing q k).2 := by
    have reachable' : (c.note [.fetching q.subreddit url]).nextReply ≠ .unreachable := reachable
    have sends := (c.note [.fetching q.subreddit url]).send_sends p
    rw [if_neg reachable'] at sends
    simp only [askListing, target, prepared, ask_of_prepared]
    exact (c.note_sends _).trans sends
  unfold readListing
  rcases listing : c.askListing q k with ⟨f | l, d⟩
  · rwa [listing] at asked
  · rw [listing] at asked
    exact asked.trans (d.takePosts_sends q l)

end Client

theorem Http.sentUrl_web (host : String) (segments : List String) (query fragment : Option String) :
    sentUrl (web host segments query fragment) = web host segments query fragment := by
  have anonymous : userinfo? ⟨"", none, .domain host, none⟩ = none := by
    have empty : percentDecoded? "" = some "" := by decide
    simp [userinfo?, empty]
  simp [sentUrl, web, anonymous]

theorem Http.prepare_web {host : String} (named : host ≠ "") (segments : List String)
    (query fragment : Option String) {headers : Headers}
    (writable : ∀ h ∈ headers, isHeaderValue h.2 = true) :
    ∃ p, Request.prepare .get (web host segments query fragment) headers "" = .ok p := by
  have hosted : (web host segments query fragment).hasHost = true := by
    simpa [web, hasHost, Host.hasName] using named
  have all : headers.all (fun h => isHeaderValue h.2) = true := List.all_eq_true.mpr writable
  have secure : (web host segments query fragment).scheme = "https" := rfl
  rw [prepare_eq, sentUrl_web, hosted, all, secure]
  exact ⟨_, rfl⟩

theorem Endpoints.IsUsualBase.parse {base : String} (h : IsUsualBase base) :
    ∃ host : String, Plain host.toList ∧ host ≠ "" ∧ base = String.ofList (start host.toList) ∧
      Url.parse base = .ok (web host [""] none none) := by
  obtain rfl | rfl := h
  · exact ⟨"reddit.com", plain_publicHost, by decide, by decide, by decide +kernel⟩
  · exact ⟨"oauth.reddit.com", plain_oauthHost, by decide, by decide, by decide +kernel⟩

namespace Query

variable {q : Query} {base : String}

/-- Every listing without a template has its URL on the base, and it can be requested. -/
theorem located_of_usual (usual : Endpoints.IsUsualBase base) (h : q.requestUrlTemplate = none) :
    ∃ u, q.Located base u ∧ sentUrl u = u ∧
      ∀ headers : Headers, (∀ h ∈ headers, isHeaderValue h.2 = true) →
        ∃ p, Request.prepare .get u headers "" = .ok p := by
  obtain ⟨host, plain, named, rfl, parsed⟩ := usual.parse
  have built := listingUrl_eq plain q
  have encoded := q.encoded_listingUrl
  refine ⟨_, ⟨?_, ?_, parse_text plain encoded, _, parsed, rfl, rfl⟩, sentUrl_web host _ _ _,
    fun headers => prepare_web named _ _ _⟩
  · simp only [requestUrl, built, h]
    rfl
  · simp [text_web encoded.nonempty]

/-- However the subreddit and the search are spelled, a listing on a usual base has a URL of that
base. A fetch of it cannot fail for want of a URL and asks for it nowhere else; it does ask, unless
its renewal fails, a header cannot be written or the host is out of reach. -/
theorem fetch_located (usual : Endpoints.IsUsualBase base) (h : q.requestUrlTemplate = none) :
    ∃ u, q.Located base u ∧
      ∀ (c : Client) (k : Option Credential), (c.access k).1 = base →
        (∀ e, (c.fetch q k).1 ≠ .error (.url e)) ∧
        (∀ r ∈ Client.sentSince c (c.fetch q k).2.2, r.method = .get → r.url = u) ∧
        ∀ k' c', c.Renews k k' c' → (∀ h ∈ (c'.access k').2, isHeaderValue h.2 = true) →
          c'.nextReply ≠ .unreachable →
          ∃ r, Client.sentSince c (c.fetch q k).2.2 = Client.sentSince c c' ++ [r] ∧
            r.method = .get ∧ r.url = u := by
  obtain ⟨u, located, unchanged, preparable⟩ := located_of_usual usual h
  have target : q.target base = .ok u := by
    rw [Query.target, located.built]
    exact located.read
  refine ⟨u, located, ?_⟩
  rintro c k rfl
  refine ⟨?_, ?_, ?_⟩
  · intro e failed
    have untargeted := Client.target_of_fetch failed
    rw [target] at untargeted
    cases untargeted
  · intro r sent get
    obtain ⟨headers, reads⟩ := Client.reads_of_fetch sent get
    obtain ⟨url, ht, hu, -⟩ := reads.located
    rw [target] at ht
    rw [hu, ← Except.ok.inj ht, unchanged]
  · intro k' c' renews writable reachable
    obtain ⟨p, prepared⟩ := preparable _ writable
    obtain ⟨rs, renewal⟩ := renews.sends
    have reading := Client.readListing_sends_of_prepared (k := k') (renews.access_eq.symm ▸ target)
      prepared reachable
    rw [renews.fetch_eq, (renewal.trans reading).sentSince_eq, renewal.sentSince_eq]
    rw [prepare_ok prepared]
    exact ⟨_, rfl, rfl, unchanged⟩

/-- A name that tries to lead to another host, by slashes and dots, an `@` and line ends. -/
def sampleAstray : Query where
  subreddit := "../..\\%2E%2e//\t\nme:word@evil.test:99/?x=\x27#y "

def sampleClosing : Client where
  awaited := [.closed]

set_option maxRecDepth 4000 in
/-- It is asked for on the host of the base, with a token. -/
theorem fetch_located_of_astray :
    let k : Option Credential := some { token := "word" }
    Endpoints.IsUsualBase "https://oauth.reddit.com" ∧ sampleAstray.requestUrlTemplate = none ∧
      (sampleClosing.access k).1 = "https://oauth.reddit.com" ∧
      sampleClosing.Renews k k sampleClosing ∧ sampleClosing.nextReply ≠ .unreachable ∧
      ∃ u, sampleAstray.Located "https://oauth.reddit.com" u ∧
        u.text = "https://oauth.reddit.com//me:word@evil.test:99/?x=%27#y%20/hot.json" ∧
        ∃ r, Client.sentSince sampleClosing (sampleClosing.fetch sampleAstray k).2.2 = [r] ∧
          r.method = .get ∧ r.url = u := by
  intro k
  have usual : Endpoints.IsUsualBase "https://oauth.reddit.com" := .inr rfl
  have access : (sampleClosing.access k).1 = "https://oauth.reddit.com" := by decide
  have renews : sampleClosing.Renews k k sampleClosing := .credential rfl
  have built : sampleAstray.requestUrl "https://oauth.reddit.com" =
      .ok "https://oauth.reddit.com//me:word@evil.test:99/?x=%27#y%20/hot.json" := by
    decide +kernel
  obtain ⟨u, located, requests⟩ := fetch_located (q := sampleAstray) usual rfl
  obtain ⟨-, -, asks⟩ := requests sampleClosing k access
  refine ⟨usual, rfl, access, renews, by decide, u, located, ?_,
    asks k sampleClosing renews (by decide) (by decide)⟩
  exact Except.ok.inj (located.built.symm.trans built)

end Query

end ForumDigest
