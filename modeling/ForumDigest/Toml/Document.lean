import ForumDigest.Toml.Lexical

namespace ForumDigest.Toml

structure Table where
  origin : Origin := {}
  items : List (String × Value) := []

namespace Table

def toValue (t : Table) : Value := .table t.origin t.items

def put (key : String) (v : Value) : List (String × Value) → List (String × Value)
  | [] => [(key, v)]
  | (k, old) :: items => if k = key then (k, v) :: items else (k, old) :: put key v items

/-- Changes the table at the end of a path of keys, making the tables on the way. `dotted` tells
that the path is a key with dots, which may not enter a table that has a header. -/
def alter (inline dotted : Bool) (f : Table → Option Table) : (path : List String) → Table →
    Option Table
  | [], t => f t
  | key :: path, t =>
    match t.items.lookup key with
    | none => do
      let child ← alter inline dotted f path
        { origin := { isInline := inline, isImplicit := true, isDotted := dotted } }
      return { t with items := put key child.toValue t.items }
    | some (.table origin items) =>
      if (origin.isInline && !inline) || (dotted && !origin.isImplicit) then none
      else do
        let child ← alter inline dotted f path { origin, items }
        return { t with items := put key child.toValue t.items }
    | some (.tables elements) =>
      match elements.getLast? with
      | some (.table origin items) => do
        let child ← alter inline dotted f path { origin, items }
        return { t with items := put key (.tables (elements.dropLast ++ [child.toValue])) t.items }
      | _ => none
    | some _ => none

def insert (inline : Bool) (path : List String) (key : String) (v : Value) (t : Table) :
    Option Table :=
  alter inline true
    (fun inner =>
      if inner.origin.isDotted = path.isEmpty || (inner.items.lookup key).isSome then none
      else some { inner with items := inner.items ++ [(key, v)] })
    path t

end Table

def inlineTable (pairs : List (List String × Value)) : Option Value := do
  let t ← pairs.foldlM
    (fun t (ks, v) => do t.insert true ks.dropLast (← ks.getLast?) v)
    ({ origin := { isInline := true } } : Table)
  return t.toValue

mutual

def value (depth : Nat) : (fuel : Nat) → List Char → Option (Value × List Char)
  | 0, _ => none
  | fuel + 1, cs =>
    match cs with
    | [] => none
    | '"' :: _ | '\x27' :: _ => (string? cs).map fun (s, rest) => (.string (String.ofList s), rest)
    | '[' :: rest =>
      if depth ≤ 1 then none
      else (elements (depth - 1) fuel rest).map fun (vs, rest) => (.array vs, rest)
    | '\x7b' :: rest =>
      if depth ≤ 1 then none
      else
        match skipBlanks rest with
        | '\x7d' :: rest => (inlineTable []).map (·, rest)
        | _ => do
          let (ps, rest) ← pairs (depth - 1) fuel rest
          return (← inlineTable ps, rest)
    | 't' :: 'r' :: 'u' :: 'e' :: rest => some (.boolean true, rest)
    | 'f' :: 'a' :: 'l' :: 's' :: 'e' :: rest => some (.boolean false, rest)
    | _ =>
      match datetime? cs with
      | some rest => some (.datetime, rest)
      | none => number? cs

def elements (depth : Nat) : (fuel : Nat) → List Char → Option (List Value × List Char)
  | 0, _ => none
  | fuel + 1, cs => do
    match ← skipLines (cs.length + 1) cs with
    | ']' :: rest => return ([], rest)
    | cs =>
      let (v, rest) ← value depth fuel cs
      match ← skipLines (rest.length + 1) rest with
      | ']' :: rest => return ([v], rest)
      | ',' :: rest =>
        let (vs, rest) ← elements depth fuel rest
        return (v :: vs, rest)
      | _ => none

def pairs (depth : Nat) : (fuel : Nat) → List Char → Option (List (List String × Value) × List Char)
  | 0, _ => none
  | fuel + 1, cs => do
    let (ks, rest) ← key? cs
    let (v, rest) ← value depth fuel (skipBlanks (← mark? '=' rest))
    match skipBlanks rest with
    | '\x7d' :: rest => return ([(ks, v)], rest)
    | ',' :: rest =>
      let (ps, rest) ← pairs depth fuel rest
      return ((ks, v) :: ps, rest)
    | _ => none

end

/-- A document that is partly read: the tables that are closed, the one that is open, and where that
one belongs. -/
structure Draft where
  root : Table := {}
  current : Table := {}
  path : List String := []
  isElement : Bool := false

namespace Draft

def close (d : Draft) : Option Table :=
  match d.path.getLast? with
  | none => some d.current
  | some key =>
    d.root.alter false false
      (fun parent =>
        if d.isElement then
          match (parent.items.lookup key).getD (.tables []) with
          | .tables elements =>
            some { parent with
              items := Table.put key (.tables (elements ++ [d.current.toValue])) parent.items }
          | _ => none
        else some { parent with items := Table.put key d.current.toValue parent.items })
      d.path.dropLast

def openTable (path : List String) (d : Draft) : Option Draft := do
  let root ← d.close
  let key ← path.getLast?
  let found ← lookup root path.dropLast key
  match found with
  | none => return { root, path }
  | some (.table origin items) =>
    if origin.isImplicit && !origin.isDotted && !origin.isInline then
      let root ← root.alter false false
        (fun parent => some { parent with items := parent.items.filter (·.1 ≠ key) }) path.dropLast
      return { root, current := { items }, path }
    else none
  | some _ => none
where
  /-- The value that is at a path, unless the path leads through something other than tables. -/
  lookup (root : Table) (path : List String) (key : String) : Option (Option Value) :=
    match path with
    | [] => some (root.items.lookup key)
    | step :: path =>
      match root.items.lookup step with
      | none => some none
      | some (.table origin items) =>
        if origin.isInline then none else lookup { origin, items } path key
      | some (.tables elements) =>
        match elements.getLast? with
        | some (.table origin items) => lookup { origin, items } path key
        | _ => none
      | some _ => none

def openElement (path : List String) (d : Draft) : Option Draft := do
  let root ← d.close
  let key ← path.getLast?
  let root ← root.alter false false
    (fun parent =>
      match (parent.items.lookup key).getD (.tables []) with
      | .tables elements =>
        some { parent with items := Table.put key (.tables elements) parent.items }
      | _ => none)
    path.dropLast
  return { root, path, isElement := true }

def addPair (ks : List String) (v : Value) (d : Draft) : Option Draft := do
  let current ← d.current.insert false ks.dropLast (← ks.getLast?) v
  return { d with current }

end Draft

def header (d : Draft) (cs : List Char) : Option (Draft × List Char) :=
  match cs with
  | '[' :: cs => do
    let (path, rest) ← key? cs
    let rest ← finishLine (← mark? ']' (← mark? ']' rest))
    return (← d.openElement path, rest)
  | _ => do
    let (path, rest) ← key? cs
    let rest ← finishLine (← mark? ']' rest)
    return (← d.openTable path, rest)

def pair (d : Draft) (cs : List Char) : Option (Draft × List Char) := do
  let (ks, rest) ← key? cs
  let rest := skipBlanks (← mark? '=' rest)
  let (v, rest) ← value depthLimit (2 * rest.length + 2) rest
  return (← d.addPair ks v, ← finishLine rest)

/-- Reads the lines: headers, which open a table, and pairs, which belong to the table that is open.
`fuel` bounds their number. -/
def lines : (fuel : Nat) → Draft → List Char → Option Draft
  | 0, _, _ => none
  | fuel + 1, d, cs =>
    match skipBlanks cs with
    | [] => some d
    | '[' :: rest => do
      let (d, rest) ← header d rest
      lines fuel d rest
    | c :: rest =>
      match finishLine (c :: rest) with
      | some rest => lines fuel d rest
      | none =>
        if c = '#' then none
        else do
          let (d, rest) ← pair d (c :: rest)
          lines fuel d rest

/-- The items of a document's root table. No key is given twice, and no table is opened twice. -/
def parse (text : String) : Option (List (String × Value)) := do
  let cs := match text.toList with
    | '\uFEFF' :: cs => cs
    | cs => cs
  let d ← lines (cs.length + 2) {} cs
  let root ← d.close
  return root.items

end ForumDigest.Toml
