namespace ForumDigest

structure Arguments where
  config : Option String := none
  subreddit : Option String := none
  verbose : Bool := false
  deriving DecidableEq, Repr

namespace Arguments

inductive Stop where
  | helpWanted
  | misused
  deriving DecidableEq, Repr

inductive Setting where
  | config
  | subreddit
  deriving DecidableEq, Repr

inductive Expecting where
  | option
  | valueOf (s : Setting)
  | nothing
  deriving DecidableEq, Repr

def setting? (letter : Char) : Option Setting :=
  match letter with
  | 'c' => some .config
  | 's' => some .subreddit
  | _ => none

def settingNamed? (name : String) : Option Setting :=
  match name with
  | "config" => some .config
  | "subreddit" => some .subreddit
  | _ => none

def set (a : Arguments) (s : Setting) (value : String) : Except Stop Arguments :=
  match s with
  | .config =>
    if a.config.isSome || value = "" then .error .misused else .ok { a with config := some value }
  | .subreddit =>
    if a.subreddit.isSome then .error .misused else .ok { a with subreddit := some value }

def setVerbose (a : Arguments) : Except Stop Arguments :=
  if a.verbose then .error .misused else .ok { a with verbose := true }

def readLetters (a : Arguments) : List Char → Except Stop (Expecting × Arguments)
  | [] => .ok (.option, a)
  | c :: cs =>
    match setting? c with
    | some s =>
      if cs = [] then .ok (.valueOf s, a)
      else (a.set s (String.ofList (if cs.head? = some '=' then cs.tail else cs))).map (.option, ·)
    | none =>
      if c = 'h' then .error .helpWanted
      else if c = 'v' then a.setVerbose.bind (readLetters · cs)
      else .error .misused

def readName (a : Arguments) (cs : List Char) : Except Stop (Expecting × Arguments) :=
  let name := String.ofList (cs.takeWhile (· ≠ '='))
  let joined := cs.dropWhile (· ≠ '=')
  match settingNamed? name with
  | some s =>
    if joined = [] then .ok (.valueOf s, a)
    else (a.set s (String.ofList joined.tail)).map (.option, ·)
  | none =>
    if joined ≠ [] then .error .misused
    else if name = "help" then .error .helpWanted
    else if name = "verbose" then a.setVerbose.map (.option, ·)
    else .error .misused

def readArgument (e : Expecting) (a : Arguments) (arg : String) :
    Except Stop (Expecting × Arguments) :=
  match e, arg.toList with
  | .nothing, _ => .error .misused
  | .valueOf _, '-' :: _ :: _ => .error .misused
  | .valueOf s, _ => (a.set s arg).map (.option, ·)
  | .option, ['-', '-'] => .ok (.nothing, a)
  | .option, '-' :: '-' :: name => a.readName name
  | .option, '-' :: c :: letters => a.readLetters (c :: letters)
  | .option, _ => .error .misused

def readFrom (e : Expecting) (a : Arguments) : List String → Except Stop Arguments
  | [] =>
    match e with
    | .valueOf _ => .error .misused
    | _ => .ok a
  | arg :: args =>
    match readArgument e a arg with
    | .error s => .error s
    | .ok (e, a) => readFrom e a args

def configVariable : String := "SUBREDDIT_FEED_CONFIG"

def defaultConfig : String := "subreddit-feed.toml"

/-- Reads the arguments; `preset` is the value of `configVariable`, if it is set. An option is given
once at most, its value behind it or joined to it, and single letters may share one hyphen. -/
def read (preset : Option String) (args : List String) : Except Stop Arguments := do
  let a ← readFrom .option {} args
  match a.config, preset with
  | none, some value => a.set .config value
  | _, _ => return a

def configPath (a : Arguments) : String := a.config.getD defaultConfig

def help : String :=
  "Fetch recent posts from the configured subreddits\n\n" ++
  "Usage: subreddit-feed [OPTIONS]\n\n" ++
  "Options:\n" ++
  "  -c, --config <CONFIG>        Path to the TOML feed configuration " ++
  "[env: SUBREDDIT_FEED_CONFIG=] [default: subreddit-feed.toml]\n" ++
  "  -s, --subreddit <SUBREDDIT>  Only fetch this subreddit\n" ++
  "  -v, --verbose                Enable debug logging\n" ++
  "  -h, --help                   Print help"

end Arguments

end ForumDigest
