import ForumDigest.CommandLine.Run
import ForumDigest.Proofs.Client.Locality
import ForumDigest.Proofs.Feed.Basic

namespace ForumDigest

open Http

namespace Feed

open Client

theorem start_local (f : Feed) : Local fun c => paired (f.start c) := by
  cases held : f.credential with
  | none =>
    refine (pure_local (.ok (), f)).congr fun c => ?_
    simp only [start, held, paired]
  | some k =>
    by_cases complete : k.identity.isComplete = true
    · by_cases token : k.hasToken = true
      · refine (note_local (.ok (), f) [.alreadyAuthenticated f.subreddit]).congr fun c => ?_
        simp [start, held, complete, token, paired]
      · have asked := (authenticate_local k).note [.authenticating f.subreddit]
        refine (asked.map fun x => (x.1, { f with credential := some x.2 })).congr fun c => ?_
        simp [start, held, complete, token, paired]
    · refine (pure_local (.ok (), f)).congr fun c => ?_
      simp [start, held, complete, paired]

theorem update_local (f : Feed) : Local fun c => paired (f.update c) :=
  (fetch_local f.subscription.query f.credential).map fun x =>
    (x.1.map f.subscription.select, { f with credential := x.2 })

theorem read_local (f : Feed) : Local f.read := by
  refine f.start_local.goesOn fun
    | (.error e, _) => ⟨_, pure_local (.error e), fun c c' h => ?_⟩
    | (.ok (), f') => ⟨_, f'.update_local.map Prod.fst, fun c c' h => ?_⟩
  · simp only [read, paired_eq_iff.mp h]
  · simp only [read, paired_eq_iff.mp h, paired]

theorem read_of_start_error {f : Feed} {c : Client} {e : Failure}
    (h : (f.start c).1 = .error e) :
    (f.read c).1 = .error e ∧ ∃ rs, Sends c rs (f.read c).2 ∧ ∀ r ∈ rs, r.method = .post := by
  have spec := f.start_spec c
  rw [read]
  generalize f.start c = x at h spec
  cases spec with
  | idle => cases h
  | asked _ _ _ outcome =>
    cases outcome with
    | skipped => cases h
    | granted => cases h
    | failed _ sends single =>
      cases h
      refine ⟨rfl, _, (c.note_sends _).trans sends, fun r hr => ?_⟩
      exact Identity.method_of_tokenRequest (single.mem hr)

theorem read_of_start_ok {f f' : Feed} {c c' : Client} (h : f.start c = (.ok (), f', c')) :
    f.read c = ((f'.update c').1, (f'.update c').2.2) := by
  simp only [read, h]

end Feed

/-- What became of a subscription in a run. -/
structure Visit where
  subscription : Subscription
  replies : List Reply
  result : Except Failure (List Post)
  requests : List Request
  notices : List Notice

/-- The requests to come, as many as there are replies, will meet these replies. -/
structure Client.Meets (c : Client) (e : Endpoints) (t : Instant) (replies : List Reply) :
    Prop where
  endpoints : c.endpoints = e
  now : c.now = t
  replies : c.replies replies.length = replies

namespace Visit

/-- The visit is what comes of its subscription and its replies, whatever went on before. The feed
is a new one each time. -/
structure Stands (e : Endpoints) (t : Instant) (v : Visit) : Prop where
  alone : ∀ c : Client, c.Meets e t v.replies → (Feed.ofSubscription v.subscription).read c =
    (v.result, c.advance v.replies.length v.requests v.notices)
  sent : v.requests.length = Client.answered v.replies
  /-- A feed that could not be started asked for no listing. -/
  unstarted : ∀ (c : Client) (f : Failure), c.Meets e t v.replies →
    ((Feed.ofSubscription v.subscription).start c).1 = .error f →
    v.result = .error f ∧ ∀ r ∈ v.requests, r.method ≠ .get
  /-- A feed that could be started was updated. -/
  updated : ∀ (c c' : Client) (f : Feed), c.Meets e t v.replies →
    (Feed.ofSubscription v.subscription).start c = (.ok (), f, c') →
    v.result = (f.update c').1 ∧
      (f.update c').2.2 = c.advance v.replies.length v.requests v.notices

theorem exists_of_read (s : Subscription) (c : Client) :
    ∃ v : Visit, v.subscription = s ∧ v.Stands c.endpoints c.now ∧
      c.Meets c.endpoints c.now v.replies := by
  obtain ⟨n, rs, ns, acts⟩ := (Feed.ofSubscription s).read_local c
  have length : (c.replies n).length = n := by simp [Client.replies]
  have alone (d : Client) (h : d.Meets c.endpoints c.now (c.replies n)) :
      (Feed.ofSubscription s).read d =
        (((Feed.ofSubscription s).read c).1, d.advance (c.replies n).length rs ns) := by
    have replies := h.replies
    rw [length] at replies ⊢
    exact acts.same d ⟨h.endpoints, h.now, replies⟩
  let v : Visit := ⟨s, c.replies n, ((Feed.ofSubscription s).read c).1, rs, ns⟩
  refine ⟨v, rfl, ⟨alone, acts.sent, fun d f hd hf => ?_, fun d d' f hd hf => ?_⟩,
    ⟨rfl, rfl, by rw [length]⟩⟩
  · obtain ⟨result, rs', sends, posted⟩ := Feed.read_of_start_error hf
    rw [alone d hd] at result sends
    obtain rfl : rs = rs' := List.append_cancel_left sends.sent
    exact ⟨result, fun r hr => by simp [posted r hr]⟩
  · have read := alone d hd
    rw [Feed.read_of_start_ok hf] at read
    exact ⟨(Prod.mk.inj read).1.symm, (Prod.mk.inj read).2⟩

end Visit

end ForumDigest
