import ForumDigest.Client.Fetch
import ForumDigest.Proofs.Client.Authentication
import ForumDigest.Proofs.Http.Request

namespace ForumDigest

open Http

/-- The request reads the listing of `q` on `base`. Besides the headers given it carries what the user
information of its URL stands for. -/
structure Query.Reads (q : Query) (base : String) (headers : Headers) (r : Request) : Prop where
  method : r.method = .get
  body : r.body = ""
  located : ∃ url, q.target base = .ok url ∧ r.url = sentUrl url ∧
    r.headers = urlAuthorization url ++ headers

theorem Query.reads_of_prepare {q : Query} {base : String} {headers : Headers} {url : Url}
    {r : Request} (ht : q.target base = .ok url)
    (hr : Request.prepare .get url headers "" = .ok r) : q.Reads base headers r := by
  rw [prepare_ok hr]
  exact ⟨rfl, rfl, url, ht, rfl, rfl⟩

/-- The request reads a listing with the token `t`. -/
structure Http.Request.Presents (r : Request) (t : String) : Prop where
  reads : r.method = .get
  bearer : ("authorization", "bearer " ++ t) ∈ r.headers

namespace Query.Reads

variable {q : Query} {base t : String} {k : Credential} {r : Request}

theorem presents (h : q.Reads base k.headers r) : r.Presents k.token := by
  obtain ⟨url, -, -, hh⟩ := h.located
  refine ⟨h.method, ?_⟩
  rw [hh]
  exact List.mem_append_right _ (List.mem_cons_self ..)

theorem token_eq (h : q.Reads base k.headers r) (ht : r.Presents t) : k.token = t := by
  obtain ⟨url, -, -, hh⟩ := h.located
  have hb := ht.bearer
  rw [hh, List.mem_append, Credential.headers, List.mem_cons, List.mem_singleton] at hb
  obtain hu | hb | ha := hb
  · exact (not_bearer_of_mem_urlAuthorization hu t rfl).elim
  · exact ((String.append_right_inj _).mp (Prod.mk.inj hb).2).symm
  · exact absurd (Prod.mk.inj ha).1 (by decide)

end Query.Reads

theorem Identity.method_of_tokenRequest {i : Identity} {url : String} {p : Request}
    (h : i.tokenRequest url = .ok p) : p.method = .post := by
  unfold tokenRequest at h
  split at h
  · cases h
  · rw [prepare_ok h]

namespace Credential

variable {k : Credential} {t : Instant}

theorem hasToken_of_needsRenewal (h : k.needsRenewal t = true) : k.hasToken = true := by
  rw [needsRenewal, Bool.and_eq_true] at h
  exact h.1

theorem isExpired_of_needsRenewal (h : k.needsRenewal t = true) : k.isExpired t = true := by
  rw [needsRenewal, Bool.and_eq_true] at h
  exact h.2

end Credential

namespace Client

variable {c c' : Client} {q : Query} {k k' : Credential} {rs : List Request}

theorem askListing_sends (c : Client) (q : Query) (k : Option Credential) :
    ∃ rs, Sends c rs (c.askListing q k).2 ∧
      AtMostOne (q.Reads (c.access k).1 (c.access k).2) rs := by
  unfold askListing
  dsimp only
  split
  · exact ⟨[], Sends.refl c, .inl rfl⟩
  · rename_i url ht
    obtain ⟨rs, sends, single⟩ := (c.note [.fetching q.subreddit url]).ask_sends Listing.read
      (Request.prepare .get url (c.access k).2 "")
    refine ⟨rs, (c.note_sends _).trans sends, ?_⟩
    obtain rfl | ⟨r, hr, rfl⟩ := single
    · exact .inl rfl
    · exact .inr ⟨r, Query.reads_of_prepare ht hr, rfl⟩

theorem askListing_sends_of_ok {k : Option Credential} {l : Listing}
    (h : (c.askListing q k).1 = .ok l) : ∃ r, Sends c [r] (c.askListing q k).2 := by
  unfold askListing at h ⊢
  dsimp only at h ⊢
  split at h
  · cases h
  · obtain ⟨r, -, sends⟩ := ask_sends_of_ok h
    exact ⟨r, (c.note_sends _).trans sends⟩

theorem takePosts_sends (c : Client) (q : Query) (l : Listing) : Sends c [] (c.takePosts q l).2 := by
  unfold takePosts
  split
  · exact Sends.refl c
  · exact c.note_sends _

theorem readListing_spec (c : Client) (q : Query) (k : Option Credential) :
    ∃ rs, Sends c rs (c.readListing q k).2 ∧ AtMostOne (q.Reads (c.access k).1 (c.access k).2) rs ∧
      (rs = [] → ∃ f, (c.readListing q k).1 = .error f) := by
  obtain ⟨rs, sends, single⟩ := c.askListing_sends q k
  unfold readListing
  rcases ha : c.askListing q k with ⟨f | l, c'⟩
  · rw [ha] at sends
    exact ⟨rs, sends, single, fun _ => ⟨f, rfl⟩⟩
  · have sent : ∃ r, rs = [r] := by
      obtain ⟨r, h⟩ := askListing_sends_of_ok (c := c) (q := q) (k := k) (l := l) (by rw [ha])
      exact ⟨r, sends.sentSince_eq ▸ h.sentSince_eq⟩
    rw [ha] at sends
    obtain ⟨r, rfl⟩ := sent
    exact ⟨[r], sends.trans (c'.takePosts_sends q l), single, fun h => by cases h⟩

theorem access_of_hasToken (c : Client) (h : k.hasToken = true) :
    c.access (some k) = (c.endpoints.oauthBase, k.headers) := by
  simp only [access, Option.filter_some, h, if_true]

theorem access_of_no_token (c : Client) {k : Option Credential}
    (h : ∀ j ∈ k, j.hasToken = false) :
    c.access k = (c.endpoints.publicBase, [("user-agent", browserAgent)]) := by
  cases k with
  | none => rfl
  | some j => simp only [access, Option.filter_some, h j rfl, Bool.false_eq_true, if_false]

theorem readListing_of_hasToken (c : Client) (q : Query) (h : k.hasToken = true) :
    ∃ rs, Sends c rs (c.readListing q (some k)).2 ∧
      AtMostOne (q.Reads c.endpoints.oauthBase k.headers) rs ∧
      (rs = [] → ∃ f, (c.readListing q (some k)).1 = .error f) := by
  have hl := c.readListing_spec q (some k)
  rwa [c.access_of_hasToken h] at hl

theorem renewed_sends (c : Client) (k : Credential) : ∃ rs, Sends c rs (k.renewed c).2.2 := by
  unfold Credential.renewed
  split
  · obtain ⟨rs, sends, -⟩ := (c.note [.tokenExpired]).authenticate_sends k
    exact ⟨rs, (c.note_sends _).trans sends⟩
  · exact ⟨[], Sends.refl c⟩

theorem fetch_credential (c : Client) (q : Query) (k : Credential) :
    (c.fetch q (some k)).2.1 = some (k.renewed c).2.1 := by
  unfold fetch
  rcases h : k.renewed c with ⟨_ | _, k', c'⟩ <;> simp only [h]

theorem fetch_of_valid (h : k.needsRenewal c.now = false) (q : Query) :
    c.fetch q (some k) = ((c.readListing q (some k)).1, some k, (c.readListing q (some k)).2) := by
  simp only [fetch, Credential.renewed, h]
  rfl

theorem fetch_of_no_token {k : Option Credential} (h : ∀ j ∈ k, j.hasToken = false) (c : Client)
    (q : Query) :
    c.fetch q k = ((c.readListing q none).1, k, (c.readListing q none).2) := by
  cases k with
  | none => rfl
  | some k =>
    have hk : k.needsRenewal c.now = false := by
      rw [Credential.needsRenewal, h k rfl, Bool.false_and]
    have hl : c.readListing q (some k) = c.readListing q none := by
      have ha : c.access (some k) = c.access none := c.access_of_no_token h
      simp only [readListing, askListing, ha]
    rw [fetch_of_valid hk, hl]

theorem fetch_of_refused (h : k.needsRenewal c.now = true) {f : Failure}
    (ha : (c.note [.tokenExpired]).authenticate k = (.error f, k', c')) (q : Query) :
    c.fetch q (some k) = (.error f, some k', c') := by
  simp only [fetch, Credential.renewed, h, if_true, ha]

theorem fetch_of_renewed (h : k.needsRenewal c.now = true)
    (ha : (c.note [.tokenExpired]).authenticate k = (.ok (), k', c')) (q : Query) :
    c.fetch q (some k) =
      ((c'.readListing q (some k')).1, some k', (c'.readListing q (some k')).2) := by
  simp only [fetch, Credential.renewed, h, if_true, ha]

/-- The outcomes of a fetch with a credential, each with what it leaves of the credential and the
client. -/
inductive Fetches (c : Client) (q : Query) (k : Credential) :
    Except Failure (List Post) × Option Credential × Client → Prop where
  | read {x : Except Failure (List Post)} {rs : List Request} {c' : Client}
      (valid : k.needsRenewal c.now = false) (sends : Sends c rs c')
      (single : AtMostOne (q.Reads (c.access (some k)).1 (c.access (some k)).2) rs) :
      Fetches c q k (x, some k, c')
  | refused {f : Failure} {rs : List Request} {c' : Client}
      (expired : k.needsRenewal c.now = true) (complete : k.identity.isComplete = true)
      (attempted : (c.note [.tokenExpired]).authenticate k = (.error f, k, c'))
      (sends : Sends c rs c')
      (single : AtMostOne (k.identity.tokenRequest c.endpoints.tokenUrl = .ok ·) rs) :
      Fetches c q k (.error f, some k, c')
  | renewed {x : Except Failure (List Post)} {r : TokenReply} {p : Request} {rs : List Request}
      {e : Instant} {c' : Client} (expired : k.needsRenewal c.now = true)
      (complete : k.identity.isComplete = true) (sends : Sends c (p :: rs) c')
      (prepared : k.identity.tokenRequest c.endpoints.tokenUrl = .ok p)
      (answered : (c.askToken k.identity).1 = .ok r) (given : r.accessToken ≠ "")
      (positive : 0 < r.expiresIn) (expiry : c.now.addSeconds? r.expiresIn.toInt = some e)
      (single : AtMostOne (q.Reads c.endpoints.oauthBase
        { k with token := r.accessToken, expiresAt := some e }.headers) rs) :
      Fetches c q k (x, some { k with token := r.accessToken, expiresAt := some e }, c')
  /-- An identity that is not complete keeps its token from being renewed, not from being used. -/
  | lapsed {x : Except Failure (List Post)} {rs : List Request} {c' : Client}
      (expired : k.needsRenewal c.now = true) (incomplete : k.identity.isComplete = false)
      (sends : Sends c rs c')
      (single : AtMostOne (q.Reads c.endpoints.oauthBase k.headers) rs)
      (silent : rs = [] → ∃ f, x = .error f) :
      Fetches c q k (x, some k, c')

theorem fetch_spec (c : Client) (q : Query) (k : Credential) :
    Fetches c q k (c.fetch q (some k)) := by
  cases hr : k.needsRenewal c.now with
  | false =>
    obtain ⟨rs, sends, single, -⟩ := c.readListing_spec q (some k)
    rw [fetch_of_valid hr]
    exact .read hr sends single
  | true =>
    have started := c.note_sends [.tokenExpired]
    have h := (c.note [.tokenExpired]).authenticate_spec k
    rcases ha : (c.note [.tokenExpired]).authenticate k with ⟨x, k', c'⟩
    rw [ha] at h
    cases h with
    | skipped incomplete =>
      rw [fetch_of_renewed hr ha]
      obtain ⟨rs, sends, single, silent⟩ :=
        readListing_of_hasToken ((c.note [.tokenExpired]).note [.identityIncomplete]) q
          (Credential.hasToken_of_needsRenewal hr)
      exact .lapsed hr incomplete ((started.note _).trans sends) single silent
    | failed complete sends single =>
      rw [fetch_of_refused hr ha]
      exact .refused hr complete ha (started.trans sends) single
    | @granted r p e _ complete sends prepared answered given positive expiry =>
      rw [fetch_of_renewed hr ha]
      obtain ⟨rs, reads, single, -⟩ :=
        readListing_of_hasToken (k := { k with token := r.accessToken, expiresAt := some e }) c' q
          (decide_eq_true given)
      rw [sends.endpoints] at single
      exact .renewed hr complete (started.trans (sends.trans reads)) prepared
        ((c.ask_note _ _ _).symm.trans answered) given positive expiry single

theorem fetch_of_lapsed {x : Except Failure (List Post)} {k' : Option Credential}
    (expired : k.needsRenewal c.now = true) (incomplete : k.identity.isComplete = false)
    (h : c.fetch q (some k) = (x, k', c')) :
    ∃ rs, k' = some k ∧ Sends c rs c' ∧ AtMostOne (q.Reads c.endpoints.oauthBase k.headers) rs ∧
      (rs = [] → ∃ f, x = .error f) := by
  have outcome := c.fetch_spec q k
  rw [h] at outcome
  cases outcome with
  | lapsed _ _ sends single silent => exact ⟨_, rfl, sends, single, silent⟩
  | read valid => simp [expired] at valid
  | refused _ complete => simp [incomplete] at complete
  | renewed _ complete => simp [incomplete] at complete

end Client

end ForumDigest
