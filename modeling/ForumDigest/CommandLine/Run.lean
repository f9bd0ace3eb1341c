import ForumDigest.CommandLine.Arguments
import ForumDigest.Config.Load
import ForumDigest.Feed

namespace ForumDigest

inductive Output where
  | out (line : String)
  | err (line : String)
  | log (n : Notice)
  deriving DecidableEq, Repr

structure Outcome where
  code : Nat
  outputs : List Output
  client : Client
  deriving DecidableEq, Repr

namespace Post

def lines (p : Post) : List String :=
  [ "  " ++ p.title ++ (if p.isCrosspost then " [crosspost]" else ""),
    "    " ++ toString p.score.toInt ++ " points, " ++ toString p.commentCount.toNat ++
      " comments, " ++ Rfc3339.minuteText p.timePosted ] ++
  (if p.tags.isEmpty then [] else ["    tags: " ++ ", ".intercalate p.tags]) ++
  (p.targetUrl.map fun target => "    " ++ target ++ " (" ++ p.targetUrlDomain ++ ")").toList ++
  ["    " ++ p.discussionUrl]

end Post

namespace Feed

def read (f : Feed) (c : Client) : Except Failure (List Post) × Client :=
  match f.start c with
  | (.error e, _, c) => (.error e, c)
  | (.ok (), f, c) =>
    let (posts, _, c) := f.update c
    (posts, c)

def postLines (subreddit : String) (posts : List Post) : List String :=
  ("r/" ++ subreddit ++ " (" ++ toString posts.length ++ " posts)") ::
    posts.flatMap Post.lines ++ [""]

def outputs (subreddit : String) : Except Failure (List Post) → List Output
  | .ok posts => (postLines subreddit posts).map .out
  | .error e => e.report.map .log ++ [.err ("r/" ++ subreddit ++ ": " ++ e.advice)]

end Feed

namespace Arguments

/-- A name without any `r/` in front of it. -/
def withoutMarks : List Char → List Char
  | 'r' :: '/' :: name => withoutMarks name
  | name => name

def selects (a : Arguments) (s : Subscription) : Bool :=
  match a.subreddit with
  | none => true
  | some name => withoutMarks name.toList = s.subreddit.toList

def shows (a : Arguments) : Output → Bool
  | .log n => n.level ≠ .debug || a.verbose
  | _ => true

end Arguments

namespace Outcome

structure Tally where
  read : Nat := 0
  failed : Nat := 0
  outputs : List Output := []
  client : Client

def Tally.add (t : Tally) (s : Subscription) : Tally :=
  let (result, c) := (Feed.ofSubscription s).read { t.client with log := [] }
  { read := t.read + 1
    failed := if result.toOption.isSome then t.failed else t.failed + 1
    outputs := t.outputs ++ c.log.map .log ++ Feed.outputs s.subreddit result
    client := c }

/-- The lines that end a run without success. The cause stands indented below the message. -/
def farewell (message : String) (cause : Option String) : List Output :=
  .err ("Error: " ++ message) ::
    match cause with
    | none => []
    | some text => [.err "", .err "Caused by:", .err ("    " ++ Text.replaced text "\n" "\n    ")]

def ofTally (t : Tally) : Outcome :=
  let complaint :=
    if t.read = 0 then some "no configured subreddit matched"
    else if t.failed = 0 then none
    else some (toString t.failed ++ " of " ++ toString t.read ++ " feed(s) failed")
  match complaint with
  | none => ⟨0, t.outputs, t.client⟩
  | some m => ⟨1, t.outputs ++ farewell m none, t.client⟩

/-- Reads the selected feeds of a configuration in its order. One that fails does not keep the
others from being read. -/
def readFeeds (a : Arguments) (config : Configuration) (c : Client) : Tally :=
  (config.subscriptions.filter a.selects).foldl Tally.add
    { outputs := .log .starting :: (config.loadNotices a.configPath).map .log, client := c }

/-- Runs the command with what was found at the path of the configuration. The client is given, so a
run that fails to make one is left out. -/
def run (a : Arguments) (found : Option Entry) (c : Client) : Outcome :=
  let all : Outcome := match Configuration.load a.configPath found with
    | .error f => ⟨1, .log .starting :: farewell f.message (some f.cause), c⟩
    | .ok config => ofTally (readFeeds a config c)
  { all with outputs := all.outputs.filter a.shows }

def standardLines (logging : Bool) (o : Outcome) : List String :=
  o.outputs.filterMap fun
    | .out line => some line
    | .err _ => none
    | .log n => if logging then some n.line else none

def errorLines (o : Outcome) : List String :=
  o.outputs.filterMap fun
    | .err line => some line
    | _ => none

def ofStop (s : Arguments.Stop) (c : Client) : Outcome :=
  match s with
  | .helpWanted => ⟨0, [.out Arguments.help], c⟩
  | .misused => ⟨2, [], c⟩

def ofArguments (args : List String) (preset : Option String) (files : String → Option Entry)
    (c : Client) : Outcome :=
  match Arguments.read preset args with
  | .error s => ofStop s c
  | .ok a => run a (files a.configPath) c

end Outcome

end ForumDigest
