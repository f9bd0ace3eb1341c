import ForumDigest.Config.Basic
import ForumDigest.Text.Blank

namespace ForumDigest

inductive Refusal where
  | missingField (field : String)
  | invalidValue (field value : String)
  deriving DecidableEq, Repr

namespace Subscription

/-- The rest behind one `r/`, or the whole text. -/
def withoutMark : List Char → List Char
  | 'r' :: '/' :: name => name
  | name => name

/-- A subreddit's name as it is kept: trimmed, without one `r/`, and trimmed again. -/
def normalizedName (name : String) : String :=
  String.ofList (Text.trim (withoutMark (Text.trim name.toList)))

def withName (s : Subscription) : Subscription :=
  { s with subreddit := normalizedName s.subreddit }

def kept (text : Option String) : Option String := text.filter (!Text.isBlankText ·)

def withoutBlankTexts (s : Subscription) : Subscription :=
  { s with
    search := kept s.search
    commentsUrlTemplate := kept s.commentsUrlTemplate
    requestUrlTemplate := kept s.requestUrlTemplate }

/-- The subscription as far as it is normalized, and why it is refused if it is. A blank name stays
as it is, and a limit of zero is found before blank texts are given up. -/
def validate (s : Subscription) : Subscription × Option Refusal :=
  if normalizedName s.subreddit = "" then (s, some (.missingField "subreddit"))
  else if s.limit = 0 then (s.withName, some (.invalidValue "limit" "0"))
  else (s.withName.withoutBlankTexts, none)

def accepted (s : Subscription) : Except Refusal Subscription :=
  match s.validate with
  | (s', none) => .ok s'
  | (_, some r) => .error r

end Subscription

/-- All subscriptions normalized, or why the first one that is not accepted is refused. -/
def Configuration.accepted (c : Configuration) : Except Refusal Configuration :=
  (c.subscriptions.mapM Subscription.accepted).map Configuration.mk

end ForumDigest
