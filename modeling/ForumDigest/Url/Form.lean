import ForumDigest.Url.Percent

namespace ForumDigest.Url.Form

def isPlain (c : Char) : Bool :=
  c.isAlphanum || c == '*' || c == '-' || c == '.' || c == '_'

def encodeChar (c : Char) : List Char :=
  if c == ' ' then ['+'] else if isPlain c then [c] else Percent.encodeChar c

def encodeText (cs : List Char) : List Char := cs.flatMap encodeChar

def encodePair (pair : String × String) : List Char :=
  encodeText pair.1.toList ++ '=' :: encodeText pair.2.toList

def encode (pairs : List (String × String)) : List Char :=
  List.intercalate ['&'] (pairs.map encodePair)

def append (query : List Char) (pair : String × String) : List Char :=
  if query.isEmpty then encodePair pair else query ++ '&' :: encodePair pair

def decodeText (cs : List Char) : String :=
  let bytes := (Text.Utf8.encode cs).map fun b => if b == 0x2B then 0x20 else b
  String.ofList (Text.Utf8.decodeLossy (Percent.decode bytes))

def decodePair (cs : List Char) : String × String :=
  (decodeText (cs.takeWhile (· ≠ '=')), decodeText ((cs.dropWhile (· ≠ '=')).drop 1))

/-- Splits at each `&`, leaves out empty parts, and splits a part at its first `=`. -/
def decode (cs : List Char) : List (String × String) :=
  ((cs.splitOn '&').filter (!·.isEmpty)).map decodePair

end ForumDigest.Url.Form
