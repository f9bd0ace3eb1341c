import ForumDigest.Config.Basic
import ForumDigest.Json.Decode
import ForumDigest.Json.Write

namespace ForumDigest

open Json

def SortOrder.options : List (String × SortOrder) := all.map fun s => (s.name, s)

def TopPeriod.options : List (String × TopPeriod) := every.map fun p => (p.name, p)

def ExtraSort.options : List (String × ExtraSort) := every.map fun s => (s.name, s)

namespace SortOrder

def ofJson (text : String) : Except Json.Error SortOrder := decode (readConstant options) text

def toJson (s : SortOrder) : String := String.ofList (writeString s.name)

end SortOrder

namespace TopPeriod

def ofJson (text : String) : Except Json.Error TopPeriod := decode (readConstant options) text

def toJson (p : TopPeriod) : String := String.ofList (writeString p.name)

end TopPeriod

namespace Identity

def fields : List (RecordField Identity) :=
  [ .of "client-id" .nowhere readString fun s a => { s with clientId := a },
    .of "client-secret" .nowhere readString fun s a => { s with clientSecret := a },
    .of "username" .nowhere readString fun s a => { s with username := a },
    .of "password" .nowhere readString fun s a => { s with password := a },
    .of "user-agent" .nowhere readString fun s a => { s with userAgent := a } ]

def read : Reader Identity := readRecord "AppAuthConfig" fields {}

def write (i : Identity) : List Char :=
  writeObject
    [ ("client-id", writeString i.clientId),
      ("client-secret", writeString i.clientSecret),
      ("username", writeString i.username),
      ("password", writeString i.password),
      ("user-agent", writeString i.userAgent) ]

end Identity

namespace Subscription

def fields : List (RecordField Subscription) :=
  [ .of "subreddit" .nowhere readString fun s a => { s with subreddit := a },
    .of "sort-by" .nowhere (readConstant SortOrder.options) fun s a => { s with sortBy := a },
    .of "top-period" .nowhere (readConstant TopPeriod.options) fun s a => { s with topPeriod := a },
    .of "search" .nowhere (readOption readString) fun s a => { s with search := a },
    .of "extra-sort-by" .nowhere (readOption (readConstant ExtraSort.options)) fun s a =>
      { s with extraSort := a },
    .of "comments-url-template" .nowhere (readOption readString) fun s a =>
      { s with commentsUrlTemplate := a },
    .of "request-url-template" .nowhere (readOption readString) fun s a =>
      { s with requestUrlTemplate := a },
    .of "show-flairs" .nowhere readBool fun s a => { s with showFlairs := a },
    .of "limit" .nowhere readSize fun s a => { s with limit := a },
    .of "app-auth" .nowhere (readOption Identity.read) fun s a => { s with identity := a } ]

def read : Reader Subscription := readRecord "SubredditConfig" fields {}

def write (s : Subscription) : List Char :=
  writeObject
    [ ("subreddit", writeString s.subreddit),
      ("sort-by", writeString s.sortBy.name),
      ("top-period", writeString s.topPeriod.name),
      ("search", writeOption writeString s.search),
      ("extra-sort-by", writeOption (fun e => writeString e.name) s.extraSort),
      ("comments-url-template", writeOption writeString s.commentsUrlTemplate),
      ("request-url-template", writeOption writeString s.requestUrlTemplate),
      ("show-flairs", writeBool s.showFlairs),
      ("limit", writeNat s.limit.toNat),
      ("app-auth", writeOption Identity.write s.identity) ]

def ofJson (text : String) : Except Json.Error Subscription := decode read text

def toJson (s : Subscription) : String := String.ofList s.write

end Subscription

namespace Configuration

def fields : List (RecordField Configuration) :=
  [ .of "subreddits" .nowhere (readList Subscription.read) fun s a =>
      { s with subscriptions := a } ]

def read : Reader Configuration := readRecord "FeedConfig" fields {}

def write (c : Configuration) : List Char :=
  writeObject [("subreddits", writeList Subscription.write c.subscriptions)]

def ofJson (text : String) : Except Json.Error Configuration := decode read text

def toJson (c : Configuration) : String := String.ofList c.write

end Configuration

end ForumDigest
