import ForumDigest.Client.Fetch
import ForumDigest.Proofs.Client.Exchange

namespace ForumDigest.Client

open Http

variable {α β : Type} {c d : Client} {m n : Nat}

def reply (c : Client) (i : Nat) : Reply := c.awaited.getD i .unreachable

def replies (c : Client) (n : Nat) : List Reply := (List.range n).map c.reply

/-- The client `n` replies later, with the requests and the notices that were added. -/
def advance (c : Client) (n : Nat) (rs : List Request) (ns : List Notice) : Client :=
  { c with awaited := c.awaited.drop n, sent := c.sent ++ rs, log := c.log ++ ns }

/-- To the next `n` requests the two clients are the same. -/
structure Agrees (n : Nat) (c d : Client) : Prop where
  endpoints : d.endpoints = c.endpoints
  now : d.now = c.now
  replies : d.replies n = c.replies n

/-- How many of the replies came from a host that was reached, and so was sent a request. -/
def answered (replies : List Reply) : Nat := replies.countP (· ≠ .unreachable)

/-- The operation as it is at the client `c`: it meets `n` replies, and a client that agrees to them
has the same result, the same requests and the same notices. -/
structure Acts (op : Client → α × Client) (c : Client) (n : Nat) (rs : List Request)
    (ns : List Notice) : Prop where
  sent : rs.length = answered (c.replies n)
  same : ∀ d, c.Agrees n d → op d = ((op c).1, d.advance n rs ns)

/-- Whatever client the operation is given, its result and what it adds are told by the replies that
its own requests meet. -/
def Local (op : Client → α × Client) : Prop := ∀ c, ∃ n rs ns, Acts op c n rs ns

theorem replies_eq_iff : d.replies n = c.replies n ↔ ∀ i < n, d.reply i = c.reply i := by
  simp only [replies, List.map_inj_left, List.mem_range]

theorem replies_add (h : d.awaited = c.awaited.drop m) (n : Nat) :
    c.replies (m + n) = c.replies m ++ d.replies n := by
  have shifted (i : Nat) : d.reply i = c.reply (m + i) := by
    simp only [reply, h, List.getD_eq_getElem?_getD, List.getElem?_drop]
  simp only [replies, List.range_add, List.map_append, List.map_map, List.append_right_inj]
  exact List.map_congr_left fun i _ => (shifted i).symm

theorem Agrees.refl (n : Nat) (c : Client) : c.Agrees n c := ⟨rfl, rfl, rfl⟩

theorem Agrees.mono (h : c.Agrees n d) (hm : m ≤ n) : c.Agrees m d where
  endpoints := h.endpoints
  now := h.now
  replies := replies_eq_iff.mpr fun i hi =>
    replies_eq_iff.mp h.replies i (Nat.lt_of_lt_of_le hi hm)

theorem Agrees.advance (h : c.Agrees (m + n) d) (rs : List Request) (ns : List Notice) :
    (c.advance m rs ns).Agrees n (d.advance m rs ns) where
  endpoints := h.endpoints
  now := h.now
  replies := by
    have both := h.replies
    rw [replies_add (c := d) (d := d.advance m rs ns) rfl,
      replies_add (c := c) (d := c.advance m rs ns) rfl,
      (h.mono (Nat.le_add_right m n)).replies] at both
    exact List.append_cancel_left both

theorem advance_advance (c : Client) (m n : Nat) (rs rs' : List Request) (ns ns' : List Notice) :
    (c.advance m rs ns).advance n rs' ns' = c.advance (m + n) (rs ++ rs') (ns ++ ns') := by
  simp only [advance, List.drop_drop, List.append_assoc]

theorem advance_zero (c : Client) (ns : List Notice) : c.advance 0 [] ns = c.note ns := by
  simp only [advance, note, List.drop_zero, List.append_nil]

theorem nextReply_eq (c : Client) : c.nextReply = c.reply 0 := by
  rw [nextReply, reply]
  cases c.awaited <;> rfl

theorem Local.congr {op op' : Client → α × Client} (h : Local op) (he : ∀ c, op' c = op c) :
    Local op' := funext he ▸ h

theorem note_local (a : α) (ns : List Notice) : Local fun c => (a, c.note ns) := by
  refine fun c => ⟨0, [], ns, rfl, fun d _ => ?_⟩
  rw [advance_zero]

theorem pure_local (a : α) : Local fun c => (a, c) :=
  (note_local a []).congr fun c => by rw [note_nil]

/-- An operation that begins as a local one, and goes on as one whatever the first results in. -/
theorem Local.goesOn {op : Client → α × Client} {whole : Client → β × Client} (h : Local op)
    (hn : ∀ a, ∃ next, Local next ∧ ∀ c c', op c = (a, c') → whole c = next c') :
    Local whole := by
  intro c
  obtain ⟨m, rs, ns, hop⟩ := h c
  obtain ⟨next, hl, continues⟩ := hn (op c).1
  obtain ⟨n, rs', ns', hnext⟩ := hl (c.advance m rs ns)
  refine ⟨m + n, rs ++ rs', ns ++ ns', ?_, fun d hd => ?_⟩
  · rw [replies_add (d := c.advance m rs ns) rfl, answered, List.countP_append, List.length_append,
      hop.sent, hnext.sent]
    rfl
  · have first := hop.same d (hd.mono (Nat.le_add_right m n))
    have second := hnext.same (d.advance m rs ns) (hd.advance rs ns)
    rw [continues d _ first, continues c _ (hop.same c (.refl m c)), second, advance_advance]

theorem Local.map {op : Client → α × Client} (h : Local op) (f : α → β) :
    Local fun c => (f (op c).1, (op c).2) :=
  h.goesOn fun a => ⟨_, pure_local (f a), fun c c' hc => by rw [hc]⟩

theorem Local.note {op : Client → α × Client} (h : Local op) (ns : List Notice) :
    Local fun c => op (c.note ns) :=
  (note_local () ns).goesOn fun _ => ⟨op, h, fun _ _ hc => by rw [(Prod.mk.inj hc).2]⟩

theorem Local.told {whole : Client → α × Client}
    (h : ∀ e t, ∃ op, Local op ∧ ∀ c, c.endpoints = e → c.now = t → whole c = op c) :
    Local whole := by
  intro c
  obtain ⟨op, hl, same⟩ := h c.endpoints c.now
  obtain ⟨n, rs, ns, hop⟩ := hl c
  refine ⟨n, rs, ns, hop.sent, fun d hd => ?_⟩
  rw [same d hd.endpoints hd.now, same c rfl rfl]
  exact hop.same d hd

theorem send_local (r : Request) : Local (·.send r) := by
  intro c
  refine ⟨1, if c.nextReply = .unreachable then [] else [r], (c.nextReply.read r.url).1, ?_,
    fun d hd => ?_⟩
  · rw [show c.replies 1 = [c.nextReply] by rw [nextReply_eq]; rfl, answered]
    split <;> simp [*]
  · have next : d.nextReply = c.nextReply := by
      rw [nextReply_eq, nextReply_eq, replies_eq_iff.mp hd.replies 0 Nat.one_pos]
    simp only [send, advance, next, List.drop_one]
    split <;> simp only [List.append_nil]

theorem ask_local (reader : Json.Reader α) (r : Except NetworkFault Request) :
    Local (·.ask reader r) := by
  cases r with
  | error f => exact note_local _ _
  | ok r =>
    have decoded := (send_local r).map fun text =>
      text.bind fun text => (Json.decode reader text).mapError .json
    exact decoded.congr fun c => c.ask_of_prepared reader r

theorem askToken_local (i : Identity) : Local (·.askToken i) := by
  refine .told fun e _ => ⟨_, ask_local TokenReply.read (i.tokenRequest e.tokenUrl), ?_⟩
  intro c endpoints _
  rw [askToken, endpoints]

theorem askListing_local (q : Query) (k : Option Credential) : Local (·.askListing q k) := by
  refine .told fun e _ => ?_
  rcases granted : ({ endpoints := e } : Client).access k with ⟨base, headers⟩
  have access (c : Client) (endpoints : c.endpoints = e) : c.access k = (base, headers) := by
    subst endpoints
    exact granted
  cases located : q.target base with
  | error f =>
    refine ⟨_, pure_local (.error (.url f)), fun c endpoints _ => ?_⟩
    simp only [askListing, access c endpoints, located]
  | ok url =>
    have asked := ask_local Listing.read (Request.prepare .get url headers "")
    refine ⟨_, asked.note [.fetching q.subreddit url], fun c endpoints _ => ?_⟩
    simp only [askListing, access c endpoints, located]

theorem takePosts_local (q : Query) (l : Listing) : Local (·.takePosts q l) := by
  by_cases nothing : l.data.children.isEmpty = true
  · refine (pure_local (.error (.service (.noPostsFound q.subreddit)))).congr fun c => ?_
    rw [takePosts, if_pos nothing]
  refine .told fun e _ => ?_
  let posts := l.posts q e.webBase
  refine ⟨_, note_local (.ok posts)
    (l.pinned.map (.skipping ·.id) ++ [.retrieved posts.length q.subreddit]), ?_⟩
  intro c endpoints _
  rw [takePosts, if_neg nothing, endpoints]

theorem readListing_local (q : Query) (k : Option Credential) : Local (·.readListing q k) := by
  refine (askListing_local q k).goesOn fun
    | .error f => ⟨_, pure_local (.error f), fun c c' asked => ?_⟩
    | .ok l => ⟨_, takePosts_local q l, fun c c' asked => ?_⟩
  all_goals simp only [readListing, asked]

def paired (x : α × β × Client) : (α × β) × Client := ((x.1, x.2.1), x.2.2)

theorem paired_eq_iff {x : α × β × Client} {a : α} {b : β} :
    paired x = ((a, b), c) ↔ x = (a, b, c) := by
  obtain ⟨a', b', c'⟩ := x
  simp only [paired, Prod.mk.injEq, and_assoc]

theorem accept_local (k : Credential) (r : TokenReply) : Local fun c => paired (c.accept k r) := by
  by_cases missing : r.accessToken = ""
  · refine (pure_local (.error (.service .accessTokenMissing), k)).congr fun c => ?_
    rw [accept, if_pos missing, paired]
  by_cases expired : r.expiresIn ≤ 0
  · refine (pure_local (.error (.service .expiryMissing), k)).congr fun c => ?_
    rw [accept, if_neg missing, if_pos expired, paired]
  refine .told fun _ t => ?_
  cases expiry : t.addSeconds? r.expiresIn.toInt with
  | none =>
    refine ⟨_, note_local (.error (.service (.invalidExpiry r.expiresIn)), k) [r.notice], ?_⟩
    intro c _ now
    simp only [accept, if_neg missing, if_neg expired, now, expiry, paired]
  | some e =>
    refine ⟨_, note_local (.ok (), { k with token := r.accessToken, expiresAt := some e })
      [r.notice, .authenticated k.identity.username e], ?_⟩
    intro c _ now
    simp only [accept, if_neg missing, if_neg expired, now, expiry, paired]

theorem authenticate_local (k : Credential) : Local fun c => paired (c.authenticate k) := by
  by_cases complete : k.identity.isComplete = true
  · refine (askToken_local k.identity).goesOn fun
      | .error f => ⟨_, pure_local (.error f, k), fun c c' asked => ?_⟩
      | .ok r => ⟨_, accept_local k r, fun c c' asked => ?_⟩
    all_goals simp only [authenticate, complete, Bool.not_true, Bool.false_eq_true, if_false,
      asked, paired]
  · refine (note_local (.ok (), k) [.identityIncomplete]).congr fun c => ?_
    rw [authenticate, if_pos (by simpa using complete), paired]

theorem renewed_local (k : Credential) : Local fun c => paired (k.renewed c) := by
  refine .told fun _ t => ?_
  by_cases renewal : k.needsRenewal t = true
  · refine ⟨_, (authenticate_local k).note [.tokenExpired], fun c _ now => ?_⟩
    rw [Credential.renewed, now, if_pos renewal]
  · refine ⟨_, pure_local (.ok (), k), fun c _ now => ?_⟩
    rw [Credential.renewed, now, if_neg renewal, paired]

theorem fetch_local (q : Query) (k : Option Credential) : Local fun c => paired (c.fetch q k) := by
  cases k with
  | none => exact (readListing_local q none).map (·, none)
  | some k =>
    refine (renewed_local k).goesOn fun
      | (.error f, k') => ⟨_, pure_local (.error f, some k'), fun c c' h => ?_⟩
      | (.ok (), k') => ⟨_, (readListing_local q (some k')).map (·, some k'), fun c c' h => ?_⟩
    all_goals simp only [fetch, paired_eq_iff.mp h, paired]

end ForumDigest.Client
