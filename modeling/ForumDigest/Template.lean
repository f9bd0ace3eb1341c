import ForumDigest.Text.Substitution

namespace ForumDigest.Template

open Text (replaced)

def requestUrlMark : String := "\x7bREQUEST-URL\x7d"

def subredditMark : String := "\x7bSUBREDDIT\x7d"

def postIdMark : String := "\x7bPOST-ID\x7d"

def postPathMark : String := "\x7bPOST-PATH\x7d"

def postPath (permalink : String) : String :=
  String.ofList (permalink.toList.dropWhile (· == '/'))

def fillRequest (template url : String) : String := replaced template requestUrlMark url

/-- Fills in the subreddit, then the post's id, then its path. A value that holds a later
placeholder is filled in turn. -/
def fillComments (template subreddit postId permalink : String) : String :=
  replaced (replaced (replaced template subredditMark subreddit) postIdMark postId) postPathMark
    (postPath permalink)

end ForumDigest.Template
