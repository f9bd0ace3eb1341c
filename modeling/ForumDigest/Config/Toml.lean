import ForumDigest.Config.Json
import ForumDigest.Toml.Decode

namespace ForumDigest

open Toml

namespace Identity

def keys : List (RecordField Identity) :=
  [ .of "client-id" readString fun s a => { s with clientId := a },
    .of "client-secret" readString fun s a => { s with clientSecret := a },
    .of "username" readString fun s a => { s with username := a },
    .of "password" readString fun s a => { s with password := a },
    .of "user-agent" readString fun s a => { s with userAgent := a } ]

def ofToml : Reader Identity := readRecord "AppAuthConfig" keys {}

end Identity

namespace Subscription

def keys : List (RecordField Subscription) :=
  [ .of "subreddit" readString fun s a => { s with subreddit := a },
    .of "sort-by" (readConstant SortOrder.options) fun s a => { s with sortBy := a },
    .of "top-period" (readConstant TopPeriod.options) fun s a => { s with topPeriod := a },
    .of "search" readString fun s a => { s with search := some a },
    .of "extra-sort-by" (readConstant ExtraSort.options) fun s a => { s with extraSort := some a },
    .of "comments-url-template" readString fun s a => { s with commentsUrlTemplate := some a },
    .of "request-url-template" readString fun s a => { s with requestUrlTemplate := some a },
    .of "show-flairs" readBool fun s a => { s with showFlairs := a },
    .of "limit" readSize fun s a => { s with limit := a },
    .of "app-auth" Identity.ofToml fun s a => { s with identity := some a } ]

def ofToml : Reader Subscription := readRecord "SubredditConfig" keys {}

end Subscription

namespace Configuration

def keys : List (RecordField Configuration) :=
  [ .of "subreddits" (readList Subscription.ofToml) fun s a => { s with subscriptions := a } ]

def ofToml (text : String) : Except Toml.Error Configuration := Toml.decode keys {} text

end Configuration

end ForumDigest
