import ForumDigest.Calendar.Rfc3339
import ForumDigest.Json.Decode
import ForumDigest.Json.Write
import ForumDigest.Post.Basic

namespace ForumDigest

open Json

namespace Instant

def read : Reader Instant :=
  (readText "an RFC 3339 formatted date and time string").refine fun text =>
    match Rfc3339.read (String.ofList text) with
    | .ok t => .ok t
    | .error e => .error e.message

end Instant

namespace Post

def fields : List (RecordField Post) :=
  [ .of "title" .everywhere readString fun s a => { s with title := a },
    .of "discussion_url" .everywhere readString fun s a => { s with discussionUrl := a },
    .of "target_url" .inArrays (readOption readString) fun s a => { s with targetUrl := a },
    .of "target_url_domain" .everywhere readString fun s a => { s with targetUrlDomain := a },
    .of "thumbnail_url" .inArrays (readOption readString) fun s a => { s with thumbnailUrl := a },
    .of "tags" .everywhere (readList readString) fun s a => { s with tags := a },
    .of "comment_count" .everywhere readUInt32 fun s a => { s with commentCount := a },
    .of "score" .everywhere readInt32 fun s a => { s with score := a },
    .of "engagement" .everywhere readReal fun s a => { s with engagement := a },
    .of "time_posted" .everywhere Instant.read fun s a => { s with timePosted := a },
    .of "is_crosspost" .everywhere readBool fun s a => { s with isCrosspost := a } ]

def read : Reader Post := readRecord "ForumPost" fields empty

def write (p : Post) : List Char :=
  writeObject
    [ ("title", writeString p.title),
      ("discussion_url", writeString p.discussionUrl),
      ("target_url", writeOption writeString p.targetUrl),
      ("target_url_domain", writeString p.targetUrlDomain),
      ("thumbnail_url", writeOption writeString p.thumbnailUrl),
      ("tags", writeList writeString p.tags),
      ("comment_count", writeNat p.commentCount.toNat),
      ("score", writeInt p.score.toInt),
      ("engagement", writeReal p.engagement),
      ("time_posted", writeText (Rfc3339.write p.timePosted)),
      ("is_crosspost", writeBool p.isCrosspost) ]

def listOfJson (text : String) : Except Json.Error (List Post) := decode (readList read) text

def listToJson (ps : List Post) : String := String.ofList (writeList write ps)

end Post

end ForumDigest
