import ForumDigest.Text.CharSet
import ForumDigest.Text.EntityTable

namespace ForumDigest.Text.Entity

def table : List (String × Char) :=
  (tableWords entityWords).map fun word =>
    (String.ofList (word.takeWhile (· ≠ '=')),
      Char.ofNat (hexNumber ((word.dropWhile (· ≠ '=')).drop 1)))

def isHexDigit (c : Char) : Bool :=
  c.isDigit || ('a' ≤ c && c ≤ 'f') || ('A' ≤ c && c ≤ 'F')

def isReferable (n : Nat) : Bool :=
  n.isValidChar && (0x20 ≤ n || n = 0x9 || n = 0xA || n = 0xC || n = 0xD)

def byNumber (n : Nat) : Option Char := if isReferable n then some (Char.ofNat n) else none

def decimal (ds : List Char) : Nat := ds.foldl (fun n d => n * 10 + (d.toNat - 0x30)) 0

def resolve (name : List Char) : Option Char :=
  match name with
  | '#' :: 'x' :: ds | '#' :: 'X' :: ds =>
    if !ds.isEmpty && ds.all isHexDigit then byNumber (hexNumber (ds.map Char.toLower)) else none
  | '#' :: ds => if !ds.isEmpty && ds.all Char.isDigit then byNumber (decimal ds) else none
  | _ => table.lookup (String.ofList name)

def decodeFrom : (pending : Option (List Char)) → List Char → List Char
  | none, [] => []
  | some name, [] => '&' :: name.reverse
  | none, c :: cs => if c = '&' then decodeFrom (some []) cs else c :: decodeFrom none cs
  | some name, c :: cs =>
    if c = '&' then '&' :: name.reverse ++ decodeFrom (some []) cs
    else if c = ';' then
      match resolve name.reverse with
      | some e => e :: decodeFrom none cs
      | none => '&' :: name.reverse ++ ';' :: decodeFrom none cs
    else decodeFrom (some (c :: name)) cs

/-- Puts a character in the place of each `&name;`, `&#10;` and `&#xA;`. What is no reference stays
as it is written, and what a reference stands for is not read again. -/
def decode (s : String) : String := String.ofList (decodeFrom none s.toList)

end ForumDigest.Text.Entity
