import ForumDigest.Proofs.Client.Classification
import ForumDigest.Proofs.Session.Renewal

namespace ForumDigest

open Http

inductive Http.Reply.TimesOut : Reply → Prop where
  | silent : TimesOut .silent
  | stalled {r : Response} (status : 200 ≤ r.status ∧ r.status < 300) (bodied : r.status ≠ 204)
      (ending : r.ending = .stalled) : TimesOut (.response r)

namespace Client

variable {c : Client} {f : Failure}

def ComesTo (c : Client) (f : Failure) : Prop :=
  ∀ (α : Type) (reader : Json.Reader α) (p : Request), (c.ask reader (.ok p)).1 = .error f

/-- The next request that the client sends comes to `f`, and so does all that needs its answer. -/
structure Reports (c : Client) (f : Failure) : Prop where
  asked : c.ComesTo f
  token : ∀ k, sentSince c (c.authenticate k).2.2 ≠ [] → (c.authenticate k).1 = .error f
  listing : ∀ q k, sentSince c (c.fetch q k).2.2 ≠ [] → (c.fetch q k).1 = .error f

theorem ComesTo.note (h : c.ComesTo f) (ns : List Notice) : (c.note ns).ComesTo f := by
  intro α reader p
  rw [ask_note, h]

/-- A request that cannot be prepared fails without being sent, and any other comes to `f`. -/
theorem ComesTo.ask {α : Type} (h : c.ComesTo f) (reader : Json.Reader α)
    (r : Except NetworkFault Request) :
    ∃ e, (c.ask reader r).1 = .error e ∧ (e = f ∨ Sends c [] (c.ask reader r).2) := by
  cases r with
  | error e => exact ⟨.network e, rfl, .inr (c.note_sends _)⟩
  | ok p => exact ⟨f, h α reader p, .inl rfl⟩

theorem ComesTo.authenticate (h : c.ComesTo f) (k : Credential) :
    Sends c [] (c.authenticate k).2.2 ∨ (c.authenticate k).1 = .error f := by
  unfold Client.authenticate
  split
  · exact .inl (c.note_sends _)
  · obtain ⟨e, failed, told⟩ : ∃ e, (c.askToken k.identity).1 = .error e ∧
        (e = f ∨ Sends c [] (c.askToken k.identity).2) := h.ask _ _
    rcases ha : c.askToken k.identity with ⟨x, c'⟩
    rw [ha] at failed told
    cases failed
    exact told.symm.imp_right (congrArg Except.error)

theorem ComesTo.readListing (h : c.ComesTo f) (q : Query) (k : Option Credential) :
    Sends c [] (c.readListing q k).2 ∨ (c.readListing q k).1 = .error f := by
  obtain ⟨e, failed, told⟩ : ∃ e, (c.askListing q k).1 = .error e ∧
      (e = f ∨ Sends c [] (c.askListing q k).2) := by
    unfold askListing
    dsimp only
    split
    · exact ⟨_, rfl, .inr (Sends.refl c)⟩
    · obtain ⟨e, failed, told⟩ := (h.note _).ask Listing.read _
      exact ⟨e, failed, told.imp_right (c.note_sends _).trans⟩
  unfold Client.readListing
  rcases ha : c.askListing q k with ⟨x, c'⟩
  rw [ha] at failed told
  cases failed
  exact told.symm.imp_right (congrArg Except.error)

/-- The first request of a fetch, for a token or for the listing, decides the whole of it. -/
theorem ComesTo.fetch (h : c.ComesTo f) (q : Query) (k : Option Credential) :
    Sends c [] (c.fetch q k).2.2 ∨ (c.fetch q k).1 = .error f := by
  cases k with
  | none =>
    rw [fetch_of_no_token (k := none) nofun]
    exact h.readListing q none
  | some k =>
    cases expired : k.needsRenewal c.now with
    | false =>
      rw [fetch_of_valid expired]
      exact h.readListing q (some k)
    | true =>
      have started := c.note_sends [.tokenExpired]
      have told := (h.note [.tokenExpired]).authenticate k
      have spec := (c.note [.tokenExpired]).authenticate_spec k
      rcases ha : (c.note [.tokenExpired]).authenticate k with ⟨x, k', c'⟩
      rw [ha] at told spec
      cases spec with
      | skipped =>
        rw [fetch_of_renewed expired ha]
        exact (((h.note _).note _).readListing q (some k)).imp_left ((started.note _).trans ·)
      | failed =>
        rw [fetch_of_refused expired ha]
        exact told.imp started.trans (congrArg _ <| Except.error.inj ·)
      | granted _ sends =>
        obtain silent | failed := told
        · exact absurd (sends.sentSince_eq.symm.trans silent.sentSince_eq) (List.cons_ne_nil _ _)
        · cases failed

theorem ComesTo.reports (h : c.ComesTo f) : c.Reports f where
  asked := h
  token k sent := (h.authenticate k).resolve_left fun silent => sent silent.sentSince_eq
  listing q k sent := (h.fetch q k).resolve_left fun silent => sent silent.sentSince_eq

theorem comesTo_of_silent (reply : c.nextReply = .silent) : c.ComesTo (.service .requestTimeout) :=
  fun _ _ _ => ask_of_answers (.silent reply)

theorem comesTo_of_stalled {r : Response} (reply : c.nextReply = .response r)
    (status : 200 ≤ r.status ∧ r.status < 300) (bodied : r.status ≠ 204)
    (ending : r.ending = .stalled) : c.ComesTo (.network .stalledBody) := by
  have body : r.text = .error .stalledBody := by rw [Response.text_of_bodied bodied status, ending]
  exact fun _ _ _ => ask_of_answers (.cut reply status body)

theorem Reports.unique {g : Failure} (h : c.Reports f) (h' : c.Reports g) : f = g := by
  -- Any request tells the two apart.
  let p : Request := { method := .get, url := ⟨"", none, .plain "", none, none⟩, headers := [] }
  exact Except.error.inj
    ((h.asked _ TokenReply.read p).symm.trans (h'.asked _ TokenReply.read p))

/-- Where the limit ends an exchange, it is told as a timeout if and only if no answer has begun;
else it is told as a fault of the network. -/
theorem reports_iff (timeout : c.nextReply.TimesOut) :
    (c.Reports (.service .requestTimeout) ↔ c.nextReply = .silent) ∧
      (c.Reports (.network .stalledBody) ↔ c.nextReply ≠ .silent) := by
  generalize reply : c.nextReply = reply' at timeout
  cases timeout with
  | silent =>
    have told := (comesTo_of_silent reply).reports
    refine ⟨iff_of_true told rfl, iff_of_false (fun other => ?_) (not_not.mpr rfl)⟩
    cases told.unique other
  | stalled status bodied ending =>
    have told := (comesTo_of_stalled reply status bodied ending).reports
    refine ⟨iff_of_false (fun other => ?_) nofun, iff_of_true told nofun⟩
    cases told.unique other

def sampleUnanswered : Client := { awaited := [.silent] }

theorem reports_iff_of_unanswered :
    sampleUnanswered.nextReply.TimesOut ∧ sampleUnanswered.Reports (.service .requestTimeout) := by
  have timeout : sampleUnanswered.nextReply.TimesOut := .silent
  exact ⟨timeout, (reports_iff timeout).1.mpr rfl⟩

def sampleStalling : Client :=
  { endpoints := .rootedAt "http://forum.test"
    awaited := [.response { body := "\x7b\"data\":", ending := .stalled }] }

set_option maxRecDepth 4000 in
/-- A listing that stalls within its body is told as a fault of the network. -/
theorem not_reports_of_stalled :
    sampleStalling.nextReply.TimesOut ∧
      (sampleStalling.fetch { subreddit := "lean" } none).1 = .error (.network .stalledBody) ∧
      ¬ sampleStalling.Reports (.service .requestTimeout) := by
  have told : (sampleStalling.fetch { subreddit := "lean" } none).1 =
      .error (.network .stalledBody) := by
    decide +kernel
  have sent :
      sentSince sampleStalling (sampleStalling.fetch { subreddit := "lean" } none).2.2 ≠ [] := by
    decide +kernel
  refine ⟨.stalled (by decide) (by decide) rfl, told, fun reports => ?_⟩
  have timely := reports.listing _ none sent
  rw [told] at timely
  cases timely

end Client

end ForumDigest
