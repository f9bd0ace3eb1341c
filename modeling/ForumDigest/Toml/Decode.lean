import ForumDigest.Json.Decode
import ForumDigest.Toml.Document

namespace ForumDigest.Toml

inductive Error where
  | malformed
  | mismatch (message : String)
  deriving DecidableEq, Repr

def Error.message : Error → String
  | malformed => "the text is not TOML"
  | mismatch m => m

def Reader (α : Type) : Type := Value → Except String α

def Reader.map {α β : Type} (f : α → β) (r : Reader α) : Reader β := fun v => (r v).map f

def invalidType {α : Type} (v : Value) (expected : String) : Except String α :=
  .error ("invalid type: " ++ v.describe ++ ", expected " ++ expected)

def readString : Reader String
  | .string s => .ok s
  | v => invalidType v "a string"

def readBool : Reader Bool
  | .boolean b => .ok b
  | v => invalidType v "a boolean"

def readSize : Reader UInt64
  | .integer n =>
    if 0 ≤ n then .ok (UInt64.ofNat n.toNat)
    else .error ("invalid value: " ++ (Value.integer n).describe ++ ", expected usize")
  | v => invalidType v "usize"

def readList {α : Type} (r : Reader α) : Reader (List α)
  | .array vs | .tables vs => vs.mapM r
  | v => invalidType v "a sequence"

structure RecordField (σ : Type) where
  name : String
  read : σ → Reader σ

def RecordField.of {σ α : Type} (name : String) (r : Reader α) (store : σ → α → σ) :
    RecordField σ :=
  ⟨name, fun s => r.map (store s)⟩

def readItem {σ : Type} (fields : List (RecordField σ)) (s : σ) (item : String × Value) :
    Except String σ :=
  match fields.find? (·.name = item.1) with
  | some f => f.read s item.2
  | none => .ok s

def readItems {σ : Type} (fields : List (RecordField σ)) (start : σ)
    (items : List (String × Value)) : Except String σ :=
  items.foldlM (readItem fields) start

/-- The fields in order, as far as the array goes; what it holds beyond them is not read. -/
def readPositions {σ : Type} (fields : List (RecordField σ)) (start : σ) (vs : List Value) :
    Except String σ :=
  (fields.zip vs).foldlM (fun s (f, v) => f.read s v) start

/-- Reads a record: a table whose unknown keys are passed over, or an array of its fields in order.
A field that is left out keeps its value of `start`; `title` is what a message calls the record. A
date counts as a table whose only key is unknown. -/
def readRecord {σ : Type} (title : String) (fields : List (RecordField σ)) (start : σ) : Reader σ
  | .table _ items => readItems fields start items
  | .array vs | .tables vs => readPositions fields start vs
  | .datetime => .ok start
  | v => invalidType v ("struct " ++ title)

def readNothing : Value → Except String Unit
  | .array vs | .tables vs => if vs.isEmpty then .ok () else .error "expected empty array"
  | .table _ items => if items.isEmpty then .ok () else .error "expected empty table"
  | v => .error ("expected table, found " ++ v.typeName)

def readConstant {α : Type} (options : List (String × α)) : Reader α
  | .string s => Json.constant options s.toList
  | .table _ [] => .error "wanted exactly 1 element, found 0 elements"
  | .table _ [(key, v)] => do
    let a ← Json.constant options key.toList
    readNothing v
    return a
  | .table .. => .error "wanted exactly 1 element, more than 1 element"
  | _ => .error "wanted string or table"

def decode {σ : Type} (fields : List (RecordField σ)) (start : σ) (text : String) :
    Except Error σ :=
  match parse text with
  | none => .error .malformed
  | some items => (readItems fields start items).mapError .mismatch

end ForumDigest.Toml
