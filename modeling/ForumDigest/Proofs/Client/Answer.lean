import ForumDigest.Proofs.Client.Exchange

namespace ForumDigest

open Http

theorem Http.isSuccess_iff (status : UInt16) :
    isSuccess status = true ↔ 200 ≤ status ∧ status < 300 := by
  rw [isSuccess, Bool.and_eq_true, decide_eq_true_iff, decide_eq_true_iff]

namespace Client

variable {α : Type} {c : Client} {reader : Json.Reader α}

/-- The outcomes of asking, with a request that is prepared or not, by the reply to it. -/
inductive Answers (c : Client) (reader : Json.Reader α) :
    Except NetworkFault Request → Except Failure α → Prop where
  | unprepared {f : NetworkFault} : Answers c reader (.error f) (.error (.network f))
  | unreachable {p : Request} (reply : c.nextReply = .unreachable) :
      Answers c reader (.ok p) (.error (.network (.unreachable p.url)))
  | closed {p : Request} (reply : c.nextReply = .closed) :
      Answers c reader (.ok p) (.error (.network (.closed p.url)))
  | silent {p : Request} (reply : c.nextReply = .silent) :
      Answers c reader (.ok p) (.error (.service .requestTimeout))
  | refused {p : Request} {r : Response} (reply : c.nextReply = .response r)
      (status : ¬ (200 ≤ r.status ∧ r.status < 300)) :
      Answers c reader (.ok p) (.error (.service (r.fault p.url)))
  | cut {p : Request} {r : Response} {f : NetworkFault} (reply : c.nextReply = .response r)
      (status : 200 ≤ r.status ∧ r.status < 300) (body : r.text = .error f) :
      Answers c reader (.ok p) (.error (.network f))
  | undecodable {p : Request} {r : Response} {text : String} {e : Json.Error}
      (reply : c.nextReply = .response r) (status : 200 ≤ r.status ∧ r.status < 300)
      (body : r.text = .ok text) (unread : Json.decode reader text = .error e) :
      Answers c reader (.ok p) (.error (.json e))
  | decoded {p : Request} {r : Response} {text : String} {a : α}
      (reply : c.nextReply = .response r) (status : 200 ≤ r.status ∧ r.status < 300)
      (body : r.text = .ok text) (read : Json.decode reader text = .ok a) :
      Answers c reader (.ok p) (.ok a)

theorem ask_fst (c : Client) (reader : Json.Reader α) (p : Request) :
    (c.ask reader (.ok p)).1 =
      (c.nextReply.read p.url).2.bind fun text => (Json.decode reader text).mapError .json := by
  rw [ask_of_prepared]
  rfl

theorem read_of_refused {r : Response} (url : Url) (h : ¬ (200 ≤ r.status ∧ r.status < 300)) :
    (r.read url).2 = .error (.service (r.fault url)) := by
  rw [Response.read, if_neg (mt (isSuccess_iff r.status).mp h)]

theorem read_of_success {r : Response} (url : Url) (h : 200 ≤ r.status ∧ r.status < 300) :
    (r.read url).2 = r.text.mapError .network := by
  rw [Response.read, if_pos ((isSuccess_iff r.status).mpr h)]

theorem ask_of_answers {request : Except NetworkFault Request} {x : Except Failure α}
    (h : c.Answers reader request x) : (c.ask reader request).1 = x := by
  cases h with
  | unprepared => rfl
  | unreachable reply => rw [ask_fst, reply]; rfl
  | closed reply => rw [ask_fst, reply]; rfl
  | silent reply => rw [ask_fst, reply]; rfl
  | refused reply status =>
    rw [ask_fst, reply, Reply.read, read_of_refused _ status]
    rfl
  | cut reply status body =>
    rw [ask_fst, reply, Reply.read, read_of_success _ status, body]
    rfl
  | undecodable reply status body unread =>
    rw [ask_fst, reply, Reply.read, read_of_success _ status, body]
    exact congrArg (Except.mapError Failure.json) unread
  | decoded reply status body read =>
    rw [ask_fst, reply, Reply.read, read_of_success _ status, body]
    exact congrArg (Except.mapError Failure.json) read

theorem ask_answers (c : Client) (reader : Json.Reader α)
    (request : Except NetworkFault Request) :
    c.Answers reader request (c.ask reader request).1 := by
  -- Each case gives an outcome, and by `ask_of_answers` it is the one of `ask`.
  have settled {x : Except Failure α} (h : c.Answers reader request x) :
      c.Answers reader request (c.ask reader request).1 := (ask_of_answers h).symm ▸ h
  cases request with
  | error f => exact settled .unprepared
  | ok p =>
    cases reply : c.nextReply with
    | unreachable => exact settled (.unreachable reply)
    | closed => exact settled (.closed reply)
    | silent => exact settled (.silent reply)
    | response r =>
      by_cases status : 200 ≤ r.status ∧ r.status < 300
      · cases body : r.text with
        | error f => exact settled (.cut reply status body)
        | ok text =>
          cases read : Json.decode reader text with
          | error e => exact settled (.undecodable reply status body read)
          | ok a => exact settled (.decoded reply status body read)
      · exact settled (.refused reply status)

/-- Asking has one outcome, and the reply decides which. -/
theorem answers_iff {request : Except NetworkFault Request} {x : Except Failure α} :
    c.Answers reader request x ↔ (c.ask reader request).1 = x := by
  constructor
  · exact ask_of_answers
  · rintro rfl
    exact c.ask_answers reader request

end Client

end ForumDigest
