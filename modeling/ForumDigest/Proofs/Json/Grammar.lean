import ForumDigest.Json.Lexical
import Mathlib.Tactic.Common

namespace ForumDigest.Json

def Blank (cs : List Char) : Prop := ∀ c ∈ cs, isSpace c = true

inductive IsText : List Char → Prop where
  | nil : IsText []
  | plain {c : Char} {cs : List Char} (quote : c ≠ '"') (backslash : c ≠ '\\')
    (control : 0x20 ≤ c.toNat) (rest : IsText cs) : IsText (c :: cs)
  | escape {c : Char} {cs : List Char} (known : (escape? c).isSome) (rest : IsText cs) :
    IsText ('\\' :: c :: cs)
  | unit {a b c d : Char} {cs : List Char} (digits : (unit? a b c d).isSome) (rest : IsText cs) :
    IsText ('\\' :: 'u' :: a :: b :: c :: d :: cs)

theorem IsText.of_plain {cs : List Char}
    (h : ∀ c ∈ cs, c ≠ '"' ∧ c ≠ '\\' ∧ 0x20 ≤ c.toNat) : IsText cs := by
  induction cs with
  | nil => exact .nil
  | cons c cs ih =>
    obtain ⟨quote, backslash, control⟩ := h c List.mem_cons_self
    exact .plain quote backslash control (ih fun d hd => h d (List.mem_cons_of_mem c hd))

structure Digits (cs : List Char) : Prop where
  nonempty : cs ≠ []
  digits : ∀ c ∈ cs, c.isDigit = true

structure IsWhole (cs : List Char) : Prop extends Digits cs where
  unpadded : ∀ ds, cs = '0' :: ds → ds = []

inductive IsFraction : List Char → Prop where
  | none : IsFraction []
  | digits {ds : List Char} (h : Digits ds) : IsFraction ('.' :: ds)

inductive IsExponent : List Char → Prop where
  | none : IsExponent []
  | digits {letter : Char} {sign ds : List Char} (hl : letter = 'e' ∨ letter = 'E')
    (hs : sign ∈ [[], ['+'], ['-']]) (h : Digits ds) : IsExponent (letter :: (sign ++ ds))

inductive IsNumeral : List Char → Prop where
  | mk {sign whole fraction exponent : List Char} (hs : sign ∈ [[], ['-']]) (hw : IsWhole whole)
    (hf : IsFraction fraction) (he : IsExponent exponent) :
    IsNumeral (sign ++ (whole ++ (fraction ++ exponent)))

structure Element where
  before : List Char := []
  value : List Char
  after : List Char := []

/-- A member of an object: its name as it stands between the quotes, and its value's text. -/
structure Member where
  before : List Char := []
  name : List Char
  between : List Char := []
  value : Element

def Element.text (e : Element) : List Char := e.before ++ (e.value ++ e.after)

def Member.text (m : Member) : List Char :=
  m.before ++ '"' :: (m.name ++ '"' :: (m.between ++ ':' :: m.value.text))

def row (pieces : List (List Char)) : List Char := List.intercalate [','] pieces

def arrayText (blank : List Char) (es : List Element) : List Char :=
  '[' :: (blank ++ (row (es.map Element.text) ++ [']']))

def objectText (blank : List Char) (ms : List Member) : List Char :=
  '\x7b' :: (blank ++ (row (ms.map Member.text) ++ ['\x7d']))

structure Element.Apart (e : Element) : Prop where
  before : Blank e.before
  after : Blank e.after

structure Member.Apart (m : Member) : Prop where
  before : Blank m.before
  name : IsText m.name
  between : Blank m.between
  value : m.value.Apart

theorem blank_nil : Blank [] := fun _ h => absurd h List.not_mem_nil

def Element.tight (value : List Char) : Element := { value }

def Member.tight (name : String) (value : List Char) : Member :=
  { name := name.toList, value := .tight value }

theorem Element.apart_tight (value : List Char) : (Element.tight value).Apart :=
  ⟨blank_nil, blank_nil⟩

theorem Member.apart_tight {name : String} (h : IsText name.toList) (value : List Char) :
    (Member.tight name value).Apart :=
  ⟨blank_nil, h, blank_nil, Element.apart_tight value⟩

inductive IsValue : List Char → Prop where
  | null : IsValue ['n', 'u', 'l', 'l']
  | true : IsValue ['t', 'r', 'u', 'e']
  | false : IsValue ['f', 'a', 'l', 's', 'e']
  | number {cs : List Char} (h : IsNumeral cs) : IsValue cs
  | text {cs : List Char} (h : IsText cs) : IsValue ('"' :: (cs ++ ['"']))
  | array {blank : List Char} {es : List Element} (hb : Blank blank) (apart : ∀ e ∈ es, e.Apart)
    (values : ∀ e ∈ es, IsValue e.value) : IsValue (arrayText blank es)
  | object {blank : List Char} {ms : List Member} (hb : Blank blank) (apart : ∀ m ∈ ms, m.Apart)
    (values : ∀ m ∈ ms, IsValue m.value.value) : IsValue (objectText blank ms)

/-- What may stand behind a value: blanks, a comma, a bracket, or the end of the text. -/
def Stops (rest : List Char) : Prop :=
  ∀ c ∈ rest.head?, isSpace c = true ∨ c = ',' ∨ c = ']' ∨ c = '\x7d'

theorem arrayText_append (blank : List Char) (es : List Element) (rest : List Char) :
    arrayText blank es ++ rest = '[' :: (blank ++ (row (es.map Element.text) ++ ']' :: rest)) := by
  simp [arrayText]

theorem objectText_append (blank : List Char) (ms : List Member) (rest : List Char) :
    objectText blank ms ++ rest =
      '\x7b' :: (blank ++ (row (ms.map Member.text) ++ '\x7d' :: rest)) := by
  simp [objectText]

theorem row_nil : row [] = [] := rfl

theorem row_cons (piece : List Char) (pieces : List (List Char)) :
    row (piece :: pieces) = piece ++ pieces.flatMap (',' :: ·) := by
  induction pieces generalizing piece with
  | nil => simp [row]
  | cons next pieces ih =>
    have comma : row (piece :: next :: pieces) = piece ++ ',' :: row (next :: pieces) := by
      simp [row, List.intercalate_cons_cons]
    rw [comma, ih, List.flatMap_cons, List.cons_append]

def elementsTail (es : List Element) (rest : List Char) : List Char :=
  (es.map Element.text).flatMap (',' :: ·) ++ ']' :: rest

def membersTail (ms : List Member) (rest : List Char) : List Char :=
  (ms.map Member.text).flatMap (',' :: ·) ++ '\x7d' :: rest

theorem elementsTail_cons (e : Element) (es : List Element) (rest : List Char) :
    elementsTail (e :: es) rest = ',' :: (e.text ++ elementsTail es rest) := by
  simp [elementsTail]

theorem membersTail_cons (m : Member) (ms : List Member) (rest : List Char) :
    membersTail (m :: ms) rest = ',' :: (m.text ++ membersTail ms rest) := by
  simp [membersTail]

theorem row_elements (e : Element) (es : List Element) (rest : List Char) :
    row ((e :: es).map Element.text) ++ ']' :: rest = e.text ++ elementsTail es rest := by
  rw [List.map_cons, row_cons, List.append_assoc]
  rfl

theorem row_members (m : Member) (ms : List Member) (rest : List Char) :
    row ((m :: ms).map Member.text) ++ '\x7d' :: rest = m.text ++ membersTail ms rest := by
  rw [List.map_cons, row_cons, List.append_assoc]
  rfl

theorem length_elementsTail (es : List Element) (rest : List Char) :
    es.length < (elementsTail es rest).length := by
  induction es with
  | nil => simp [elementsTail]
  | cons e es ih =>
    rw [elementsTail_cons]
    simp only [List.length_cons, List.length_append]
    omega

theorem length_membersTail (ms : List Member) (rest : List Char) :
    ms.length < (membersTail ms rest).length := by
  induction ms with
  | nil => simp [membersTail]
  | cons m ms ih =>
    rw [membersTail_cons]
    simp only [List.length_cons, List.length_append]
    omega

theorem IsNumeral.head {cs : List Char} (h : IsNumeral cs) :
    ∃ c ds, cs = c :: ds ∧ startsNumber c = true := by
  obtain @⟨sign, whole, fraction, exponent, hs, hw, hf, he⟩ := h
  simp only [List.mem_cons, List.not_mem_nil, or_false] at hs
  obtain rfl | rfl := hs
  · obtain ⟨d, ds, rfl⟩ := List.exists_cons_of_ne_nil hw.nonempty
    exact ⟨d, _, rfl, by simp [startsNumber, hw.digits d List.mem_cons_self]⟩
  · exact ⟨'-', _, rfl, rfl⟩

def StartsValue (c : Char) : Prop :=
  c ∈ ['n', 't', 'f', '"', '[', '\x7b'] ∨ startsNumber c = true

theorem IsValue.head {val : List Char} (h : IsValue val) :
    ∃ c cs, val = c :: cs ∧ StartsValue c := by
  cases h with
  | number h =>
    obtain ⟨c, cs, hc, start⟩ := h.head
    exact ⟨c, cs, hc, .inr start⟩
  | _ => exact ⟨_, _, rfl, .inl (by decide)⟩

theorem ne_of_startsNumber {c d : Char} (h : startsNumber c = true) (hd : startsNumber d = false) :
    c ≠ d := by
  rintro rfl
  rw [h] at hd
  cases hd

theorem StartsValue.ne {c d : Char} (h : StartsValue c)
    (hd : d ∉ ['n', 't', 'f', '"', '[', '\x7b']) (hn : startsNumber d = false) : c ≠ d := by
  obtain h | h := h
  · rintro rfl
    exact hd h
  · exact ne_of_startsNumber h hn

theorem StartsValue.not_isSpace {c : Char} (h : StartsValue c) : isSpace c = false := by
  simp [isSpace, h.ne (d := ' ') (by decide) (by decide), h.ne (d := '\n') (by decide) (by decide),
    h.ne (d := '\t') (by decide) (by decide), h.ne (d := '\r') (by decide) (by decide)]

end ForumDigest.Json
