import ForumDigest.Proofs.CommandLine.Digest
import ForumDigest.Proofs.CommandLine.Visit

namespace ForumDigest

open Http

namespace Arguments

/-- `rest` is the name without any `r/` in front of it. -/
inductive Strips : List Char → List Char → Prop where
  | marked {name rest : List Char} (h : Strips name rest) : Strips ('r' :: '/' :: name) rest
  | unmarked {name : List Char} (h : ∀ more, name ≠ 'r' :: '/' :: more) : Strips name name

/-- The arguments tell no name, or that of the subscription. -/
inductive AsksFor (a : Arguments) (s : Subscription) : Prop where
  | all (unnamed : a.subreddit = none)
  | one {name : String} (named : a.subreddit = some name)
      (strips : Strips name.toList s.subreddit.toList)

theorem withoutMarks_unmarked {cs : List Char} (h : ∀ more, cs ≠ 'r' :: '/' :: more) :
    withoutMarks cs = cs := by
  unfold withoutMarks
  split
  · exact absurd rfl (h _)
  · rfl

end Arguments

namespace Visit

def failed (v : Visit) : Bool := !v.result.toOption.isSome

def outputs (v : Visit) : List Output :=
  v.notices.map .log ++ Feed.outputs v.subscription.subreddit v.result

/-- The lines are what a run prints for a visit. Only posts that were read are printed. -/
inductive Prints (v : Visit) : List String → Prop where
  | read {posts : List Post} {lines : List String} (ok : v.result = .ok posts)
      (digest : Feed.Digest v.subscription.subreddit posts lines) : Prints v lines
  | failed {f : Failure} (error : v.result = .error f) : Prints v []

/-- What is told of a visit that failed. -/
def complaints (v : Visit) : List String :=
  match v.result with
  | .ok _ => []
  | .error f => ["r/" ++ v.subscription.subreddit ++ ": " ++ f.advice]

/-- The last line about all visits, unless they went well. -/
def lastWords (vs : List Visit) : List String :=
  if vs = [] then ["Error: no configured subreddit matched"]
  else if vs.countP failed = 0 then []
  else
    ["Error: " ++
      (toString (vs.countP failed) ++ " of " ++ toString vs.length ++ " feed(s) failed")]

end Visit

structure Visits (ss : List Subscription) (c : Client) (vs : List Visit) (c' : Client) : Prop where
  order : vs.map Visit.subscription = ss
  stands : ∀ v ∈ vs, v.Stands c.endpoints c.now
  replies : vs.flatMap Visit.replies = c.replies (vs.flatMap Visit.replies).length
  awaited : c'.awaited = c.awaited.drop (vs.flatMap Visit.replies).length
  sends : c.Sends (vs.flatMap Visit.requests) c'

namespace Visits

variable {ss ss' : List Subscription} {c c' c'' : Client} {vs vs' : List Visit}

theorem refl (c : Client) : Visits [] c [] c where
  order := rfl
  stands := by simp
  replies := rfl
  awaited := rfl
  sends := .refl c

theorem trans (h : Visits ss c vs c') (h' : Visits ss' c' vs' c'') :
    Visits (ss ++ ss') c (vs ++ vs') c'' where
  order := by rw [List.map_append, h.order, h'.order]
  stands := by
    intro v hv
    rcases List.mem_append.mp hv with hv | hv
    · exact h.stands v hv
    · rw [← h.sends.endpoints, ← h.sends.now]
      exact h'.stands v hv
  replies := by
    rw [List.flatMap_append, List.length_append, Client.replies_add h.awaited, ← h.replies,
      ← h'.replies]
  awaited := by
    rw [List.flatMap_append, List.length_append, ← List.drop_drop, ← h.awaited, h'.awaited]
  sends := by
    rw [List.flatMap_append]
    exact h.sends.trans h'.sends

end Visits

namespace Outcome

structure Tally.Reaches (t : Tally) (ss : List Subscription) (vs : List Visit) (t' : Tally) :
    Prop where
  visits : Visits ss t.client vs t'.client
  read : t'.read = t.read + vs.length
  failed : t'.failed = t.failed + vs.countP Visit.failed
  outputs : t'.outputs = t.outputs ++ vs.flatMap Visit.outputs

theorem Tally.Reaches.trans {t t' t'' : Tally} {ss ss' : List Subscription} {vs vs' : List Visit}
    (h : t.Reaches ss vs t') (h' : t'.Reaches ss' vs' t'') :
    t.Reaches (ss ++ ss') (vs ++ vs') t'' where
  visits := h.visits.trans h'.visits
  read := by rw [h'.read, h.read, List.length_append, Nat.add_assoc]
  failed := by rw [h'.failed, h.failed, List.countP_append, Nat.add_assoc]
  outputs := by rw [h'.outputs, h.outputs, List.flatMap_append, List.append_assoc]

theorem Tally.add_reaches (t : Tally) (s : Subscription) : ∃ v, t.Reaches [s] [v] (t.add s) := by
  -- The log of a feed begins anew, but nothing that the feed does depends on it.
  let c : Client := { t.client with log := [] }
  obtain ⟨v, rfl, stands, meets⟩ := Visit.exists_of_read s c
  have read := stands.alone c meets
  have added : t.add v.subscription =
      { read := t.read + 1
        failed := if v.result.toOption.isSome then t.failed else t.failed + 1
        outputs := t.outputs ++ v.notices.map .log ++ Feed.outputs v.subscription.subreddit v.result
        client := c.advance v.replies.length v.requests v.notices } := by
    rw [add, read]
    rfl
  refine ⟨v, ⟨⟨rfl, ?_, ?_, ?_, ?_⟩, ?_, ?_, ?_⟩⟩
  · simpa using stands
  · rw [List.flatMap_singleton]
    exact meets.replies.symm
  · rw [added]
    simp [Client.advance, c]
  · rw [added]
    exact ⟨rfl, rfl, by simp [Client.advance, c]⟩
  · rw [added]
    rfl
  · rw [added, List.countP_singleton, Visit.failed]
    cases v.result <;> rfl
  · rw [added]
    simp [Visit.outputs]

theorem Tally.foldl_reaches (ss : List Subscription) (t : Tally) :
    ∃ vs, t.Reaches ss vs (ss.foldl Tally.add t) := by
  induction ss generalizing t with
  | nil => exact ⟨[], .refl _, rfl, rfl, (List.append_nil _).symm⟩
  | cons s ss ih =>
    obtain ⟨v, first⟩ := t.add_reaches s
    obtain ⟨vs, later⟩ := ih (t.add s)
    exact ⟨[v] ++ vs, first.trans later⟩

/-- The line that an output puts on the standard output, apart from the log. -/
def outLine? : Output → Option String
  | .out line => some line
  | _ => none

def errLine? : Output → Option String
  | .err line => some line
  | _ => none

theorem standardLines_eq (o : Outcome) : o.standardLines false = o.outputs.filterMap outLine? := by
  rw [standardLines]
  congr
  funext output
  cases output <;> rfl

theorem errorLines_eq (o : Outcome) : o.errorLines = o.outputs.filterMap errLine? := by
  rw [errorLines]
  congr

end Outcome

theorem filterMap_log {f : Output → Option String} (silent : ∀ n, f (.log n) = none)
    (ns : List Notice) : (ns.map .log).filterMap f = [] := by
  simp [silent]

theorem Arguments.filterMap_shows (a : Arguments) {f : Output → Option String}
    (silent : ∀ n, f (.log n) = none) (ns : List Notice) (os : List Output) :
    ((ns.map Output.log ++ os).filter a.shows).filterMap f = os.filterMap f := by
  have shown (output : Output) : (if a.shows output then f output else none) = f output := by
    cases output with
    | log n => rw [silent, ite_self]
    | out line => rfl
    | err line => rfl
  simp only [List.filterMap_filter, shown]
  rw [List.filterMap_append, filterMap_log silent, List.nil_append]

namespace Visit

theorem prints_outputs (v : Visit) : v.Prints (v.outputs.filterMap Outcome.outLine?) := by
  rw [outputs, List.filterMap_append, filterMap_log fun _ => rfl, List.nil_append]
  cases result : v.result with
  | ok posts =>
    have lines : (Feed.outputs v.subscription.subreddit (.ok posts)).filterMap Outcome.outLine? =
        Feed.postLines v.subscription.subreddit posts := by
      simp [Feed.outputs, Outcome.outLine?, Function.comp_def]
    rw [lines]
    exact .read result (Feed.digest_postLines _ posts)
  | error f =>
    have none : (Feed.outputs v.subscription.subreddit (.error f)).filterMap Outcome.outLine? =
        [] := by
      simp [Feed.outputs, Outcome.outLine?, Function.comp_def]
    rw [none]
    exact .failed result

theorem filterMap_errLine (v : Visit) : v.outputs.filterMap Outcome.errLine? = v.complaints := by
  rw [outputs, List.filterMap_append, filterMap_log fun _ => rfl, complaints]
  cases v.result with
  | ok posts => simp [Feed.outputs, Outcome.errLine?]
  | error f => simp [Feed.outputs, Outcome.errLine?]

theorem lastWords_eq_nil_iff {vs : List Visit} :
    lastWords vs = [] ↔ vs ≠ [] ∧ ∀ v ∈ vs, ∃ posts, v.result = .ok posts := by
  have went_well (v : Visit) : (¬ v.failed = true) ↔ ∃ posts, v.result = .ok posts := by
    rw [failed]
    cases v.result <;> simp [Except.toOption]
  simp only [← went_well]
  rw [← List.countP_eq_zero, lastWords]
  by_cases none : vs = []
  · simp [none]
  · by_cases all : vs.countP failed = 0 <;> simp [none, all]

end Visit

namespace Outcome

theorem ofTally_eq {t : Tally} {vs : List Visit} (read : t.read = vs.length)
    (failed : t.failed = vs.countP Visit.failed) :
    ofTally t = ⟨if Visit.lastWords vs = [] then 0 else 1,
      t.outputs ++ (Visit.lastWords vs).map .err, t.client⟩ := by
  rw [ofTally, Visit.lastWords, read, failed]
  by_cases none : vs = []
  · simp [none, farewell]
  · have counted : vs.length ≠ 0 := fun h => none (List.length_eq_zero_iff.mp h)
    by_cases all : vs.countP Visit.failed = 0 <;> simp [none, counted, all, farewell]

/-- What a run tells of its visits. -/
structure Reports (vs : List Visit) (o : Outcome) : Prop where
  code : o.code = 0 ↔ vs ≠ [] ∧ ∀ v ∈ vs, ∃ posts, v.result = .ok posts
  /-- The standard output, apart from the log. -/
  printed : ∃ blocks, List.Forall₂ Visit.Prints vs blocks ∧ o.standardLines false = blocks.flatten
  told : o.errorLines = vs.flatMap Visit.complaints ++ Visit.lastWords vs

/-- What a run comes to, with what was found at the path of its configuration. -/
inductive Settles (a : Arguments) (found : Option Entry) (c : Client) : Outcome → Prop where
  | unloaded {f : Failure} {o : Outcome} (unread : Configuration.load a.configPath found = .error f)
      (code : o.code ≠ 0) (client : o.client = c) (printed : o.standardLines false = []) :
      Settles a found c o
  | loaded {config : Configuration} {vs : List Visit} {o : Outcome}
      (read : Configuration.load a.configPath found = .ok config)
      (selects : ∀ s, a.selects s = true ↔ a.AsksFor s)
      (visits : Visits (config.subscriptions.filter a.selects) c vs o.client)
      (reports : Reports vs o) : Settles a found c o

variable {a : Arguments} {found : Option Entry} {config : Configuration}

theorem reports_of_outputs (a : Arguments) (ns : List Notice) (vs : List Visit) (c : Client) :
    Reports vs ⟨if Visit.lastWords vs = [] then 0 else 1,
      (ns.map Output.log ++ (vs.flatMap Visit.outputs ++
        (Visit.lastWords vs).map Output.err)).filter a.shows, c⟩ where
  code := by
    rw [← Visit.lastWords_eq_nil_iff]
    split <;> simp [*]
  printed := by
    refine ⟨vs.map fun v => v.outputs.filterMap outLine?, ?_, ?_⟩
    · exact List.forall₂_map_right_iff.mpr (List.forall₂_same.mpr fun v _ => v.prints_outputs)
    · rw [standardLines_eq, a.filterMap_shows fun _ => rfl, List.filterMap_append,
        List.filterMap_flatMap]
      simp [outLine?, List.flatMap]
  told := by
    rw [errorLines_eq, a.filterMap_shows fun _ => rfl, List.filterMap_append,
      List.filterMap_flatMap]
    simp [Visit.filterMap_errLine, Function.comp_def, errLine?]

theorem run_of_read (h : Configuration.load a.configPath found = .ok config) (c : Client) :
    ∃ vs, Visits (config.subscriptions.filter a.selects) c vs (run a found c).client ∧
      Reports vs (run a found c) := by
  let begun : List Notice := .starting :: config.loadNotices a.configPath
  obtain ⟨vs, reaches⟩ := Tally.foldl_reaches (config.subscriptions.filter a.selects)
    { outputs := begun.map Output.log, client := c }
  have read := reaches.read
  have failed := reaches.failed
  rw [Nat.zero_add] at read failed
  have tally := ofTally_eq read failed
  rw [reaches.outputs, List.append_assoc] at tally
  have ran : run a found c = ⟨if Visit.lastWords vs = [] then 0 else 1,
      (begun.map Output.log ++ (vs.flatMap Visit.outputs ++
        (Visit.lastWords vs).map Output.err)).filter a.shows, (readFeeds a config c).client⟩ := by
    rw [run, h]
    exact congrArg (fun o : Outcome => { o with outputs := o.outputs.filter a.shows }) tally
  rw [ran]
  exact ⟨vs, reaches.visits, reports_of_outputs a begun vs _⟩

def sampleListingText : String :=
  "\x7b\"data\":\x7b\"children\":[\x7b\"data\":\x7b\"title\":\"News\",\"is_self\":true," ++
    "\"permalink\":\"/r/lean/1\"\x7d\x7d]\x7d\x7d"

/-- A forum that turns the first request away and answers the second. -/
def sampleClient : Client where
  endpoints := .rootedAt "http://forum.test"
  awaited := [.response { status := 404 }, .response { body := sampleListingText }]

end Outcome

end ForumDigest
