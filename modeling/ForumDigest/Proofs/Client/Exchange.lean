import ForumDigest.Client.Basic

namespace ForumDigest.Client

open Http

variable {α : Type} {c c₁ c₂ : Client} {rs rs₁ rs₂ : List Request}

/-- On the way from `c` to `c'` the requests `rs` were handed to the transport, in this order, and
the clock stood still. What the transport sends to follow a redirect is not counted. -/
structure Sends (c : Client) (rs : List Request) (c' : Client) : Prop where
  endpoints : c'.endpoints = c.endpoints
  now : c'.now = c.now
  sent : c'.sent = c.sent ++ rs

/-- The transport is handed no request, or one that is as `p` tells. -/
def AtMostOne (p : Request → Prop) (rs : List Request) : Prop := rs = [] ∨ ∃ r, p r ∧ rs = [r]

/-- What a client handed to the transport between two of its states. -/
def sentSince (before after : Client) : List Request := after.sent.drop before.sent.length

@[simp]
theorem note_nil (c : Client) : c.note [] = c := by
  simp only [note, List.append_nil]

theorem Sends.refl (c : Client) : Sends c [] c := ⟨rfl, rfl, (List.append_nil _).symm⟩

theorem Sends.trans (h₁ : Sends c rs₁ c₁) (h₂ : Sends c₁ rs₂ c₂) : Sends c (rs₁ ++ rs₂) c₂ where
  endpoints := h₂.endpoints.trans h₁.endpoints
  now := h₂.now.trans h₁.now
  sent := by rw [h₂.sent, h₁.sent, List.append_assoc]

theorem Sends.note (h : Sends c rs c₁) (ns : List Notice) : Sends c rs (c₁.note ns) :=
  ⟨h.endpoints, h.now, h.sent⟩

theorem note_sends (c : Client) (ns : List Notice) : Sends c [] (c.note ns) := (Sends.refl c).note ns

theorem Sends.sentSince_eq (h : Sends c rs c₁) : sentSince c c₁ = rs := by
  rw [sentSince, h.sent, List.drop_left]

theorem AtMostOne.mem {p : Request → Prop} (h : AtMostOne p rs) {r : Request} (hr : r ∈ rs) : p r := by
  obtain rfl | ⟨q, hq, rfl⟩ := h
  · cases hr
  · rwa [List.mem_singleton.mp hr]

theorem AtMostOne.imp {p q : Request → Prop} (h : AtMostOne p rs) (hpq : ∀ r, p r → q r) :
    AtMostOne q rs := by
  obtain rfl | ⟨r, hr, rfl⟩ := h
  · exact .inl rfl
  · exact .inr ⟨r, hpq r hr, rfl⟩

theorem send_sends (c : Client) (r : Request) :
    Sends c (if c.nextReply = .unreachable then [] else [r]) (c.send r).2 where
  endpoints := rfl
  now := rfl
  sent := by
    simp only [send]
    split <;> simp

theorem send_of_unreachable (r : Request) (h : c.nextReply = .unreachable) :
    (c.send r).1 = .error (.network (.unreachable r.url)) := by
  simp only [send, h, Reply.read, Reply.refuse]

theorem ask_of_prepared (c : Client) (reader : Json.Reader α) (r : Request) :
    c.ask reader (.ok r) =
      ((c.send r).1.bind fun text => (Json.decode reader text).mapError .json, (c.send r).2) := by
  rcases h : c.send r with ⟨_ | text, c'⟩ <;> simp only [ask, h] <;> rfl

theorem ask_sends (c : Client) (reader : Json.Reader α) (r : Except NetworkFault Request) :
    ∃ rs, Sends c rs (c.ask reader r).2 ∧ AtMostOne (r = .ok ·) rs := by
  cases r with
  | error f => exact ⟨[], note_sends c _, .inl rfl⟩
  | ok r =>
    rw [ask_of_prepared]
    refine ⟨_, send_sends c r, ?_⟩
    split
    · exact .inl rfl
    · exact .inr ⟨r, rfl, rfl⟩

theorem ask_sends_of_ok {reader : Json.Reader α} {r : Except NetworkFault Request} {a : α}
    (h : (c.ask reader r).1 = .ok a) : ∃ q, r = .ok q ∧ Sends c [q] (c.ask reader r).2 := by
  cases r with
  | error f => cases h
  | ok r =>
    rw [ask_of_prepared] at h ⊢
    have hr : c.nextReply ≠ .unreachable := by
      intro hu
      rw [send_of_unreachable r hu] at h
      cases h
    have hs := send_sends c r
    rw [if_neg hr] at hs
    exact ⟨r, rfl, hs⟩

theorem ask_note (c : Client) (ns : List Notice) (reader : Json.Reader α)
    (r : Except NetworkFault Request) :
    ((c.note ns).ask reader r).1 = (c.ask reader r).1 := by
  cases r with
  | error f => rfl
  | ok r =>
    rw [ask_of_prepared, ask_of_prepared]
    rfl

end ForumDigest.Client
