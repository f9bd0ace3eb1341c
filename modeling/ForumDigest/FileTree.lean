namespace ForumDigest

inductive Entry where
  | file (bytes : List UInt8)
  | directory
  deriving DecidableEq, Repr

/-- Entries by the steps that lead to them from the directory in which a program runs. A directory
on the way to an entry exists with it; above that of the program nothing but directories is known.
-/
structure FileTree where
  entries : List (List String × Entry) := []
  deriving DecidableEq, Repr

namespace FileTree

def steps (path : String) : List String :=
  (path.toList.splitOnP (· == '/')).map String.ofList

def isIdle (step : String) : Bool := step = "" || step = "."

def ofList (files : List (String × Entry)) : FileTree :=
  ⟨files.map fun (path, e) => ((steps path).filter (!isIdle ·), e)⟩

/-- The entry behind some steps from the tree's own directory. A later entry replaces an earlier
one. -/
def at? (t : FileTree) (place : List String) : Option Entry :=
  match t.entries.reverse.lookup place with
  | some e => some e
  | none =>
    if place = [] || t.entries.any fun e => place.isPrefixOf e.1 then some .directory else none

inductive Place where
  | inside (place : List String)
  | above
  deriving DecidableEq, Repr

def entry? (t : FileTree) : Place → Option Entry
  | .inside place => t.at? place
  | .above => some .directory

def step? (t : FileTree) (p : Place) (step : String) : Option Place := do
  let .directory ← t.entry? p | none
  match p with
  | .inside place =>
    if isIdle step then return p
    else if step = ".." then return if place = [] then .above else .inside place.dropLast
    else
      let _ ← t.at? (place ++ [step])
      return .inside (place ++ [step])
  | .above => if isIdle step || step = ".." then return p else none

def find? (t : FileTree) (path : String) : Option Entry := do
  if path = "" then none
  let start : Place := if path.startsWith "/" then .above else .inside []
  t.entry? (← (steps path).foldlM t.step? start)

end FileTree

end ForumDigest
