import ForumDigest.Config.Toml
import ForumDigest.FileTree
import ForumDigest.Notice
import ForumDigest.Text.Utf8

namespace ForumDigest.Configuration

def parse (text : String) : Except ConfigFault Configuration :=
  match ofToml text with
  | .error e => .error (.unreadable e)
  | .ok c => c.accepted.mapError .refused

def parseNotice (c : Configuration) : Notice := .parsed c.subscriptions.length

def contents (path : String) : Option Entry → Except Failure String
  | none => .error (.config (.fileNotFound path))
  | some .directory => .error (.file .isDirectory)
  | some (.file bytes) =>
    match Text.Utf8.decode? bytes with
    | some text => .ok (String.ofList text)
    | none => .error (.file .notUtf8)

def load (path : String) (found : Option Entry) : Except Failure Configuration := do
  let text ← contents path found
  (parse text).mapError .config

def loadNotices (path : String) (c : Configuration) : List Notice := [c.parseNotice, .loaded path]

end ForumDigest.Configuration
