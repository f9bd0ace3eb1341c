import ForumDigest.Json.Decode
import ForumDigest.Json.Write
import ForumDigest.Listing.Basic

namespace ForumDigest

open Json

namespace Parent

def fields : List (RecordField Parent) :=
  [ .of "id" .nowhere readString fun s a => { s with id := a },
    .of "subreddit" .nowhere readString fun s a => { s with subreddit := a },
    .of "permalink" .nowhere readString fun s a => { s with permalink := a } ]

def read : Reader Parent := readRecord "CrosspostParent" fields {}

def write (p : Parent) : List Char :=
  writeObject
    [ ("id", writeString p.id),
      ("subreddit", writeString p.subreddit),
      ("permalink", writeString p.permalink) ]

end Parent

namespace Submission

def fields : List (RecordField Submission) :=
  [ .of "id" .nowhere readString fun s a => { s with id := a },
    .of "title" .nowhere readString fun s a => { s with title := a },
    .of "ups" .nowhere readInt32 fun s a => { s with ups := a },
    .of "url" .nowhere readString fun s a => { s with url := a },
    .of "created" .nowhere readReal fun s a => { s with created := a },
    .of "num_comments" .nowhere readUInt32 fun s a => { s with numComments := a },
    .of "domain" .nowhere readString fun s a => { s with domain := a },
    .of "permalink" .nowhere readString fun s a => { s with permalink := a },
    .of "stickied" .nowhere readBool fun s a => { s with stickied := a },
    .of "pinned" .nowhere readBool fun s a => { s with pinned := a },
    .of "is_self" .nowhere readBool fun s a => { s with isSelf := a },
    .of "thumbnail" .nowhere (readOption readString) fun s a => { s with thumbnail := a },
    .of "link_flair_text" .nowhere (readOption readString) fun s a => { s with linkFlairText := a },
    .of "crosspost_parent_list" .nowhere (readOption (readList Parent.read)) fun s a =>
      { s with crosspostParents := a } ]

def read : Reader Submission := readRecord "RedditPostData" fields {}

def write (s : Submission) : List Char :=
  writeObject
    [ ("id", writeString s.id),
      ("title", writeString s.title),
      ("ups", writeInt s.ups.toInt),
      ("url", writeString s.url),
      ("created", writeReal s.created),
      ("num_comments", writeNat s.numComments.toNat),
      ("domain", writeString s.domain),
      ("permalink", writeString s.permalink),
      ("stickied", writeBool s.stickied),
      ("pinned", writeBool s.pinned),
      ("is_self", writeBool s.isSelf),
      ("thumbnail", writeOption writeString s.thumbnail),
      ("link_flair_text", writeOption writeString s.linkFlairText),
      ("crosspost_parent_list", writeOption (writeList Parent.write) s.crosspostParents) ]

end Submission

namespace ListingEntry

def fields : List (RecordField ListingEntry) :=
  [ .of "kind" .nowhere readString fun s a => { s with kind := a },
    .of "data" .everywhere Submission.read fun s a => { s with data := a } ]

def read : Reader ListingEntry := readRecord "RedditListingChild" fields {}

def write (e : ListingEntry) : List Char :=
  writeObject [("kind", writeString e.kind), ("data", e.data.write)]

end ListingEntry

namespace ListingPage

def fields : List (RecordField ListingPage) :=
  [ .of "children" .everywhere (readList ListingEntry.read) fun s a => { s with children := a },
    .of "after" .nowhere (readOption readString) fun s a => { s with after := a },
    .of "before" .nowhere (readOption readString) fun s a => { s with before := a } ]

def read : Reader ListingPage := readRecord "RedditListingData" fields {}

def write (p : ListingPage) : List Char :=
  writeObject
    [ ("children", writeList ListingEntry.write p.children),
      ("after", writeOption writeString p.after),
      ("before", writeOption writeString p.before) ]

end ListingPage

namespace Listing

def fields : List (RecordField Listing) :=
  [ .of "kind" .nowhere readString fun s a => { s with kind := a },
    .of "data" .everywhere ListingPage.read fun s a => { s with data := a } ]

def read : Reader Listing := readRecord "RedditListing" fields {}

def write (l : Listing) : List Char :=
  writeObject [("kind", writeString l.kind), ("data", l.data.write)]

def ofJson (text : String) : Except Json.Error Listing := decode read text

def toJson (l : Listing) : String := String.ofList l.write

end Listing

end ForumDigest
