import ForumDigest.Feed
import ForumDigest.Proofs.Client.Fetch
import Mathlib.Data.Option.Basic

namespace ForumDigest

open Http

/-- What can become of a credential: it stays, or its identity is complete and it is granted a
token. -/
inductive Credential.Becomes (k : Credential) : Credential → Prop where
  | stays : Becomes k k
  | granted {token : String} {e : Instant} (complete : k.identity.isComplete = true)
      (given : token ≠ "") : Becomes k { k with token, expiresAt := some e }

/-- A token is held only for an identity that is complete, and with an expiry. -/
structure Credential.Sound (k : Credential) : Prop where
  complete : k.hasToken = true → k.identity.isComplete = true
  expires : k.hasToken = true → ∃ e, k.expiresAt = some e

theorem Credential.Sound.ofIdentity (i : Identity) : (Credential.ofIdentity i).Sound := by
  constructor <;> intro h <;> cases h

theorem Credential.Becomes.identity {k k' : Credential} (h : k.Becomes k') :
    k'.identity = k.identity := by
  cases h <;> rfl

theorem Credential.Sound.becomes {k k' : Credential} (h : k.Sound) (hb : k.Becomes k') :
    k'.Sound := by
  cases hb with
  | stays => exact h
  | granted complete => exact ⟨fun _ => complete, fun _ => ⟨_, rfl⟩⟩

namespace Client

theorem Authenticates.becomes {c c' : Client} {k k' : Credential} {x : Except Failure Unit}
    (h : Authenticates c k (x, k', c')) : k.Becomes k' := by
  cases h with
  | skipped => exact .stays
  | failed => exact .stays
  | granted complete _ _ _ given => exact .granted complete given

theorem Fetches.becomes {c c' : Client} {q : Query} {k k' : Credential}
    {x : Except Failure (List Post)} (h : Fetches c q k (x, some k', c')) : k.Becomes k' := by
  cases h with
  | read => exact .stays
  | refused => exact .stays
  | renewed _ complete _ _ _ given => exact .granted complete given
  | lapsed => exact .stays

end Client

namespace Feed

variable {f f' : Feed} {c : Client} {sub : Subscription}

/-- The credential is complete only where it holds a token: there is nothing to start. -/
def Started (f : Feed) : Prop :=
  ∀ k, f.credential = some k → k.identity.isComplete = true → k.hasToken = true

inductive Starts (f : Feed) (c : Client) : Except Failure Unit × Feed × Client → Prop where
  | idle {c' : Client} (started : f.Started) (sends : Client.Sends c [] c') :
      Starts f c (.ok (), f, c')
  | asked {k k' : Credential} {x : Except Failure Unit} {c' : Client}
      (held : f.credential = some k) (complete : k.identity.isComplete = true)
      (missing : k.hasToken = false)
      (outcome : (c.note [.authenticating f.subreddit]).Authenticates k (x, k', c')) :
      Starts f c (x, { f with credential := some k' }, c')

theorem start_spec (f : Feed) (c : Client) : Starts f c (f.start c) := by
  unfold start
  cases held : f.credential with
  | none => exact .idle (fun k hk => by simp [held] at hk) (.refl c)
  | some k =>
    dsimp only
    cases complete : k.identity.isComplete with
    | false =>
      refine .idle (fun j hj hc => ?_) (.refl c)
      rw [held] at hj
      obtain rfl := Option.some.inj hj
      rw [complete] at hc
      cases hc
    | true =>
      cases token : k.hasToken with
      | true =>
        refine .idle (fun j hj _ => ?_) (c.note_sends _)
        rw [held] at hj
        obtain rfl := Option.some.inj hj
        exact token
      | false => exact .asked held complete token ((c.note _).authenticate_spec k)

/-- What can become of a feed: its credential changes by grants only. -/
structure Becomes (f f' : Feed) : Prop where
  subscription : f'.subscription = f.subscription
  credential : Option.Rel Credential.Becomes f.credential f'.credential

theorem Becomes.refl (f : Feed) : f.Becomes f := by
  refine ⟨rfl, ?_⟩
  cases f.credential with
  | none => exact .none
  | some k => exact .some .stays

theorem Starts.becomes {x : Except Failure Unit} {c' : Client} (h : Starts f c (x, f', c')) :
    f.Becomes f' := by
  cases h with
  | idle => exact .refl f
  | asked held _ _ outcome =>
    refine ⟨rfl, ?_⟩
    rw [held]
    exact .some outcome.becomes

theorem update_becomes (f : Feed) (c : Client) : f.Becomes (f.update c).2.1 := by
  refine ⟨rfl, ?_⟩
  change Option.Rel _ _ (c.fetch f.subscription.query f.credential).2.1
  cases f.credential with
  | none => exact .none
  | some k =>
    have h := c.fetch_spec f.subscription.query k
    have hk := c.fetch_credential f.subscription.query k
    rcases hf : c.fetch f.subscription.query (some k) with ⟨x, k', c'⟩
    rw [hf] at h hk
    subst hk
    exact .some h.becomes

/-- The feed reads the subscription for the identity configured, and holds only sound tokens. -/
structure Kept (sub : Subscription) (f : Feed) : Prop where
  subscription : f.subscription = sub
  identity : f.credential.map Credential.identity = sub.identity
  sound : ∀ k, f.credential = some k → k.Sound

theorem kept_ofSubscription (sub : Subscription) : Kept sub (ofSubscription sub) where
  subscription := rfl
  identity := by
    rw [ofSubscription, Option.map_map]
    exact Option.map_id'
  sound := by
    intro k hk
    obtain ⟨i, -, rfl⟩ := Option.map_eq_some_iff.mp hk
    exact .ofIdentity i

theorem Kept.becomes (h : Kept sub f) (hb : f.Becomes f') : Kept sub f' := by
  obtain ⟨s, k⟩ := f
  obtain ⟨s', k'⟩ := f'
  obtain ⟨hs, hi, sound⟩ := h
  obtain ⟨hs', hk⟩ := hb
  cases hk with
  | none => exact ⟨hs'.trans hs, hi, sound⟩
  | some hk =>
    refine ⟨hs'.trans hs, ?_, ?_⟩
    · rw [← hi, Option.map_some, Option.map_some, hk.identity]
    · rintro _ ⟨⟩
      exact (sound _ rfl).becomes hk

theorem Started.becomes (h : f.Started) (hb : f.Becomes f') : f'.Started := by
  obtain ⟨s, k⟩ := f
  obtain ⟨s', k'⟩ := f'
  cases hb.credential with
  | none => exact h
  | some hk =>
    rintro _ ⟨⟩
    cases hk with
    | stays => exact h _ rfl
    | granted complete given => exact fun _ => decide_eq_true given

theorem Starts.started {c' : Client} (h : Starts f c (.ok (), f', c')) : f'.Started := by
  cases h with
  | idle started => exact started
  | asked held complete missing outcome =>
    rintro _ ⟨⟩
    cases outcome with
    | skipped incomplete => exact fun hc => absurd hc (by simp [incomplete])
    | granted _ _ _ _ given => exact fun _ => decide_eq_true given

end Feed

structure Reading where
  feed : Feed
  client : Client
  deriving DecidableEq, Repr

namespace Reading

inductive Action where
  | start
  | update
  | clock (t : Instant)
  deriving DecidableEq, Repr

def next (s : Reading) : Action → Reading
  | .start => ⟨(s.feed.start s.client).2.1, (s.feed.start s.client).2.2⟩
  | .update => ⟨(s.feed.update s.client).2.1, (s.feed.update s.client).2.2⟩
  | .clock t => { s with client := { s.client with now := t } }

def after (s : Reading) (as : List Action) : Reading := as.foldl next s

def requests (s : Reading) (a : Action) : List Request := Client.sentSince s.client (s.next a).client

def opened (sub : Subscription) (c : Client) : Reading := ⟨.ofSubscription sub, c⟩

theorem next_becomes (s : Reading) (a : Action) : s.feed.Becomes (s.next a).feed := by
  cases a with
  | start => exact (s.feed.start_spec s.client).becomes
  | update => exact s.feed.update_becomes s.client
  | clock t => exact .refl s.feed

theorem after_of_becomes {p : Feed → Prop} (hp : ∀ {f f' : Feed}, p f → f.Becomes f' → p f')
    {s : Reading} (h : p s.feed) (as : List Action) : p (s.after as).feed := by
  induction as generalizing s with
  | nil => exact h
  | cons a as ih => exact ih (hp h (s.next_becomes a))

theorem kept_after (sub : Subscription) (c : Client) (as : List Action) :
    ((opened sub c).after as).feed.Kept sub :=
  after_of_becomes Feed.Kept.becomes (Feed.kept_ofSubscription sub) as

theorem started_after {s : Reading} (h : s.feed.Started) (as : List Action) :
    (s.after as).feed.Started :=
  after_of_becomes Feed.Started.becomes h as

end Reading

end ForumDigest
