import ForumDigest.Json.Decode
import ForumDigest.Proofs.Json.Skip

namespace ForumDigest.Json

variable {α β σ : Type}

def Reader.value (r : Reader α) (val : List Char) : Except Error α := (r val).map Prod.fst

theorem value_of_read {r : Reader α} {val : List Char} {result : Except Error α}
    (h : r (val ++ []) = result.map (·, [])) : r.value val = result := by
  rw [List.append_nil] at h
  rw [Reader.value, h]
  cases result <;> rfl

/-- Blanks in front of a value and the text behind it make no difference. -/
structure Reader.Exact (r : Reader α) : Prop where
  blank : ∀ b cs, Blank b → r (b ++ cs) = r cs
  leaves : ∀ val, IsValue val → Leaves fun rest => r (val ++ rest)

theorem Reader.Exact.read {r : Reader α} (h : r.Exact) {b val rest : List Char} (hb : Blank b)
    (hv : IsValue val) (hr : Stops rest) :
    r (b ++ (val ++ rest)) = (r.value val).map (·, rest) := by
  obtain ⟨result, leaves⟩ := h.leaves val hv
  rw [h.blank b _ hb, value_of_read (leaves [] stops_nil)]
  exact leaves rest hr

theorem decode_value {r : Reader α} (h : r.Exact) {b val c : List Char} (hb : Blank b)
    (hv : IsValue val) (hc : Blank c) :
    decode r (String.ofList (b ++ (val ++ c))) = r.value val := by
  have stop : Stops c := by
    rw [← List.append_nil c]
    exact stops_nil.of_blank hc
  have blank : skipSpace c = [] := by
    rw [← List.append_nil c, skipSpace_blank hc]
    rfl
  rw [decode, String.toList_ofList, h.read hb hv stop]
  rcases r.value val with e | a
  · rfl
  · simp [Except.map, blank]

theorem skipSpace_value {val : List Char} (h : IsValue val) (rest : List Char) :
    skipSpace (val ++ rest) = val ++ rest := by
  obtain ⟨c, cs, rfl, start⟩ := h.head
  exact skipSpace_cons start.not_isSpace _

theorem Reader.Exact.map {r : Reader α} (h : r.Exact) (f : α → β) : (r.map f).Exact where
  blank b cs hb := by simp only [Reader.map, h.blank b cs hb]
  leaves val hv := by
    obtain ⟨result, leaves⟩ := h.leaves val hv
    refine ⟨result.map f, fun rest hr => ?_⟩
    have read : r (val ++ rest) = result.map (·, rest) := leaves rest hr
    simp only [Reader.map, read]
    cases result <;> rfl

theorem value_map (r : Reader α) (f : α → β) (val : List Char) :
    (r.map f).value val = (r.value val).map f := by
  simp only [Reader.value, Reader.map]
  rcases r val with e | ⟨a, rest⟩ <;> rfl

theorem Reader.Exact.refine {r : Reader α} (h : r.Exact) (f : α → Except String β) :
    (r.refine f).Exact where
  blank b cs hb := by simp only [Reader.refine, h.blank b cs hb]
  leaves val hv := by
    obtain ⟨result, leaves⟩ := h.leaves val hv
    have read (rest : List Char) (hr : Stops rest) : r (val ++ rest) = result.map (·, rest) :=
      leaves rest hr
    cases result with
    | error e => exact .error fun rest hr => by simp only [Reader.refine, read rest hr]; rfl
    | ok a =>
      cases hf : f a with
      | ok b =>
        refine .ok (a := b) fun rest hr => ?_
        simp only [Reader.refine, read rest hr, Except.map, hf]
      | error m =>
        refine .error (e := .mismatch m) fun rest hr => ?_
        simp only [Reader.refine, read rest hr, Except.map, hf]

theorem mismatch_number (expected : String) {c : Char} (h : startsNumber c = true)
    (cs : List Char) :
    mismatch expected (c :: cs) =
      match number (c :: cs) with
      | .ok (n, _) => .invalidType n.describe expected
      | .error e => e := by
  have other (d : Char) (hd : startsNumber d = false) : c ≠ d := ne_of_startsNumber h hd
  cases hn : number (c :: cs) <;>
    simp [mismatch, h, hn, other 'n' (by decide), other 't' (by decide), other 'f' (by decide),
      other '[' (by decide), other '\x7b' (by decide), other '"' (by decide)]

theorem mismatch_value (expected : String) {val : List Char} (h : IsValue val) :
    ∃ e, ∀ rest, Stops rest → mismatch expected (val ++ rest) = e := by
  cases h with
  | null | true | false => exact ⟨_, fun rest _ => rfl⟩
  | array | object => exact ⟨_, fun rest _ => rfl⟩
  | text h =>
    obtain ⟨result, hs⟩ := string_leaves h
    cases result with
    | ok text =>
      refine ⟨.invalidType ("string " ++ Text.quoted (String.ofList text)) expected, fun rest _ => ?_⟩
      simp only [List.cons_append, List.append_assoc, mismatch, hs]
      rfl
    | error e =>
      refine ⟨e, fun rest _ => ?_⟩
      simp only [List.cons_append, List.append_assoc, mismatch, hs]
      rfl
  | number h =>
    obtain ⟨c, cs, rfl, start⟩ := h.head
    obtain ⟨result, leaves⟩ := number_leaves h
    have read (rest : List Char) (hr : Stops rest) : number (c :: (cs ++ rest)) = _ := leaves rest hr
    cases result with
    | ok n =>
      exact ⟨.invalidType n.describe expected, fun rest hr => by
        rw [List.cons_append, mismatch_number expected start, read rest hr]; rfl⟩
    | error e =>
      exact ⟨e, fun rest hr => by
        rw [List.cons_append, mismatch_number expected start, read rest hr]; rfl⟩

theorem leaves_mismatch {f : List Char → Except Error (α × List Char)} (expected : String)
    {val : List Char} (h : IsValue val)
    (hf : ∀ rest, f (val ++ rest) = .error (mismatch expected (val ++ rest))) :
    Leaves fun rest => f (val ++ rest) := by
  obtain ⟨e, he⟩ := mismatch_value expected h
  exact .error fun rest hr => (hf rest).trans (congrArg Except.error (he rest hr))

theorem readText_mismatch (expected : String) {c : Char} (hq : c ≠ '"') (hs : isSpace c = false)
    (cs : List Char) : readText expected (c :: cs) = .error (mismatch expected (c :: cs)) := by
  simp [readText, skipSpace_cons hs, hq]

theorem exact_readText (expected : String) : (readText expected).Exact where
  blank b cs hb := by simp only [readText, skipSpace_blank hb]
  leaves val hv := by
    have other {c : Char} {cs : List Char} (hc : val = c :: cs) (hq : c ≠ '"')
        (hs : isSpace c = false) : Leaves fun rest => readText expected (val ++ rest) :=
      leaves_mismatch expected hv fun rest => by
        rw [hc]
        exact readText_mismatch expected hq hs _
    cases hv with
    | @text cs h =>
      obtain ⟨result, leaves⟩ := string_leaves h
      refine ⟨result, fun rest _ => Eq.trans ?_ (leaves rest)⟩
      change string (cs ++ ['"'] ++ rest) = _
      rw [List.append_assoc, List.singleton_append]
    | number h =>
      obtain ⟨c, cs, hc, start⟩ := h.head
      exact other hc (ne_of_startsNumber start (by decide)) (StartsValue.not_isSpace (.inr start))
    | null | true | false => exact other rfl (by decide) (by decide)
    | array | object => exact other rfl (by decide) (by decide)

theorem exact_readString : readString.Exact := (exact_readText "a string").map String.ofList

theorem readBool_mismatch {c : Char} (ht : c ≠ 't') (hf : c ≠ 'f') (hs : isSpace c = false)
    (cs : List Char) : readBool (c :: cs) = .error (mismatch "a boolean" (c :: cs)) := by
  simp [readBool, skipSpace_cons hs, ht, hf]

theorem exact_readBool : readBool.Exact where
  blank b cs hb := by simp only [readBool, skipSpace_blank hb]
  leaves val hv := by
    have other {c : Char} {cs : List Char} (hc : val = c :: cs) (ht : c ≠ 't') (hf : c ≠ 'f')
        (hs : isSpace c = false) : Leaves fun rest => readBool (val ++ rest) :=
      leaves_mismatch "a boolean" hv fun rest => by
        rw [hc]
        exact readBool_mismatch ht hf hs _
    cases hv with
    | true => exact .ok fun _ _ => rfl
    | false => exact .ok fun _ _ => rfl
    | number h =>
      obtain ⟨c, cs, hc, start⟩ := h.head
      exact other hc (ne_of_startsNumber start (by decide)) (ne_of_startsNumber start (by decide))
        (StartsValue.not_isSpace (.inr start))
    | null | text | array | object => exact other rfl (by decide) (by decide) (by decide)

theorem exact_readNumber (expected : String) : (readNumber expected).Exact where
  blank b cs hb := by simp only [readNumber, skipSpace_blank hb]
  leaves val hv := by
    have other {c : Char} {cs : List Char} (hc : val = c :: cs) (hn : startsNumber c = false)
        (hs : isSpace c = false) : Leaves fun rest => readNumber expected (val ++ rest) :=
      leaves_mismatch expected hv fun rest => by
        simp [hc, readNumber, skipSpace_cons hs, hn]
    cases hv with
    | number h =>
      obtain ⟨c, cs, rfl, start⟩ := h.head
      refine (number_leaves h).congr fun rest _ => ?_
      have hs : isSpace c = false := StartsValue.not_isSpace (.inr start)
      simp only [List.cons_append, readNumber, skipSpace_cons hs, start, if_true]
    | null | true | false => exact other rfl (by decide) (by decide)
    | text | array | object => exact other rfl (by decide) (by decide)

theorem exact_readInt (low high : Int) (kind : String) : (readInt low high kind).Exact where
  blank b cs hb := by simp only [readInt, (exact_readNumber kind).blank b cs hb]
  leaves val hv := by
    obtain ⟨result, leaves⟩ := (exact_readNumber kind).leaves val hv
    have read (rest : List Char) (hr : Stops rest) :
        readNumber kind (val ++ rest) = result.map (·, rest) := leaves rest hr
    have bounded (n : Number) (value : Int) : Leaves fun rest =>
        if low ≤ value ∧ value ≤ high then .ok (value, rest)
        else .error (.invalidValue n.describe kind) := by
      split
      · exact .ok fun _ _ => rfl
      · exact .error fun _ _ => rfl
    cases result with
    | error e => exact .error fun rest hr => by simp only [readInt, read rest hr]; rfl
    | ok n =>
      cases n with
      | real x => exact .error fun rest hr => by simp only [readInt, read rest hr]; rfl
      | natural m =>
        refine (bounded (.natural m) m).congr fun rest hr => ?_
        simp only [readInt, read rest hr]
        rfl
      | negative m =>
        refine (bounded (.negative m) (-m)).congr fun rest hr => ?_
        simp only [readInt, read rest hr]
        rfl

theorem exact_readInt32 : readInt32.Exact := (exact_readInt _ _ _).map _

theorem exact_readUInt32 : readUInt32.Exact := (exact_readInt _ _ _).map _

theorem exact_readSize : readSize.Exact := (exact_readInt _ _ _).map _

theorem exact_readReal : readReal.Exact := (exact_readNumber _).map _

theorem readOption_some (r : Reader α) {c : Char} (hn : c ≠ 'n') (hs : isSpace c = false)
    (cs : List Char) : readOption r (c :: cs) = r.map some (c :: cs) := by
  simp [readOption, skipSpace_cons hs, hn]

theorem Reader.Exact.option {r : Reader α} (h : r.Exact) : (readOption r).Exact where
  blank b cs hb := by simp only [readOption, skipSpace_blank hb]
  leaves val hv := by
    have other {c : Char} {cs : List Char} (hc : val = c :: cs) (hn : c ≠ 'n')
        (hs : isSpace c = false) : Leaves fun rest => readOption r (val ++ rest) :=
      ((h.map some).leaves val hv).congr fun rest _ => by
        rw [hc]
        exact readOption_some r hn hs _
    cases hv with
    | null => exact .ok fun _ _ => rfl
    | number h =>
      obtain ⟨c, cs, hc, start⟩ := h.head
      exact other hc (ne_of_startsNumber start (by decide)) (StartsValue.not_isSpace (.inr start))
    | true | false | text | array | object => exact other rfl (by decide) (by decide)

theorem nextElement_comma {b : List Char} (hb : Blank b) {e : Element} (apart : e.Apart)
    (hv : IsValue e.value) (rest : List Char) :
    nextElement false (b ++ ',' :: (e.text ++ rest)) =
      .ok (some (e.value ++ (e.after ++ rest))) := by
  have start := skipSpace_value hv (e.after ++ rest)
  obtain ⟨c, cs, hc, starts⟩ := hv.head
  have apart' : c ≠ ']' := starts.ne (by decide) (by decide)
  have inner : skipSpace (e.text ++ rest) = e.value ++ (e.after ++ rest) := by
    rw [Element.text, List.append_assoc, List.append_assoc, skipSpace_blank apart.before, start]
  unfold nextElement
  rw [skipSpace_blank hb, skipSpace_cons (by decide)]
  simp only [inner]
  rw [hc]
  simp [apart']

theorem nextElement_first {b : List Char} (hb : Blank b) {e : Element} (apart : e.Apart)
    (hv : IsValue e.value) (rest : List Char) :
    nextElement true (b ++ (e.text ++ rest)) = .ok (some (e.value ++ (e.after ++ rest))) := by
  have start := skipSpace_value hv (e.after ++ rest)
  obtain ⟨c, cs, hc, starts⟩ := hv.head
  have apart' : c ≠ ']' := starts.ne (by decide) (by decide)
  unfold nextElement
  rw [skipSpace_blank hb, Element.text, List.append_assoc, List.append_assoc,
    skipSpace_blank apart.before, start, hc]
  simp [apart']

theorem nextElement_end {b : List Char} (hb : Blank b) (first : Bool) (rest : List Char) :
    nextElement first (b ++ ']' :: rest) = .ok none := by
  unfold nextElement
  rw [skipSpace_blank hb, skipSpace_cons (by decide)]
  cases first <;> rfl

theorem closeArray_end {b : List Char} (hb : Blank b) (rest : List Char) :
    closeArray (b ++ ']' :: rest) = .ok rest := by
  unfold closeArray
  rw [skipSpace_blank hb, skipSpace_cons (by decide)]
  rfl

def Reader.values (r : Reader α) (es : List Element) : Except Error (List α) :=
  es.mapM fun e => r.value e.value

theorem values_cons (r : Reader α) (e : Element) (es : List Element) :
    r.values (e :: es) = (r.value e.value).bind fun a => (r.values es).map (a :: ·) := by
  simp only [Reader.values, List.mapM_cons]
  rcases r.value e.value with err | a
  · rfl
  · change Except.bind (.ok a) _ = _
    simp only [Except.bind]
    rcases List.mapM (fun e => r.value e.value) es with err | as <;> rfl

section

variable {r : Reader α} (hr : r.Exact)
include hr

theorem elements_value {b : List Char} (hb : Blank b) {es : List Element}
    (apart : ∀ e ∈ es, e.Apart) (values : ∀ e ∈ es, IsValue e.value) {fuel : Nat}
    (hf : es.length < fuel) (rest : List Char) :
    elements r fuel false (b ++ elementsTail es rest) = (r.values es).map (·, rest) := by
  induction es generalizing b fuel with
  | nil =>
    obtain ⟨fuel, rfl⟩ := Nat.exists_eq_succ_of_ne_zero (Nat.ne_of_gt hf)
    unfold elements
    rw [show b ++ elementsTail [] rest = b ++ ']' :: rest from rfl, nextElement_end hb]
    simp only [closeArray_end hb]
    rfl
  | cons e es ih =>
    obtain ⟨fuel, rfl⟩ := Nat.exists_eq_succ_of_ne_zero (Nat.ne_of_gt (Nat.zero_lt_of_lt hf))
    have he := apart e List.mem_cons_self
    have hv := values e List.mem_cons_self
    have read := hr.read (b := []) (fun _ h => by cases h) hv (he.stops_elementsTail es rest)
    rw [List.nil_append] at read
    unfold elements
    rw [elementsTail_cons, nextElement_comma hb he hv]
    simp only [read, values_cons]
    rcases r.value e.value with err | a
    · rfl
    · have tail := ih he.after (fun d hd => apart d (List.mem_cons_of_mem e hd))
        (fun d hd => values d (List.mem_cons_of_mem e hd)) (Nat.lt_of_succ_lt_succ hf)
      simp only [Except.map, Reader.map, tail]
      rcases r.values es with err | as <;> rfl

theorem readList_array {blank : List Char} (hb : Blank blank) {es : List Element}
    (apart : ∀ e ∈ es, e.Apart) (values : ∀ e ∈ es, IsValue e.value) (rest : List Char) :
    readList r (arrayText blank es ++ rest) = (r.values es).map (·, rest) := by
  have opened : readList r (arrayText blank es ++ rest) =
      elements r ((blank ++ (row (es.map Element.text) ++ ']' :: rest)).length + 1) true
        (blank ++ (row (es.map Element.text) ++ ']' :: rest)) := by
    rw [arrayText_append]
    rfl
  rw [opened]
  unfold elements
  cases es with
  | nil =>
    rw [List.map_nil, row_nil, List.nil_append, nextElement_end hb]
    simp only [closeArray_end hb]
    rfl
  | cons e es =>
    have he := apart e List.mem_cons_self
    have hv := values e List.mem_cons_self
    have read := hr.read (b := []) (fun _ h => by cases h) hv (he.stops_elementsTail es rest)
    rw [List.nil_append] at read
    rw [row_elements, nextElement_first hb he hv]
    simp only [read, values_cons]
    rcases r.value e.value with err | a
    · rfl
    · have fuel : es.length < (blank ++ (e.text ++ elementsTail es rest)).length := by
        have := length_elementsTail es rest
        simp only [List.length_append]
        omega
      have tail := elements_value hr he.after (fun d hd => apart d (List.mem_cons_of_mem e hd))
        (fun d hd => values d (List.mem_cons_of_mem e hd)) fuel rest
      simp only [Except.map, Reader.map, tail]
      rcases r.values es with err | as <;> rfl

theorem exact_readList : (readList r).Exact where
  blank b cs hb := by simp only [readList, skipSpace_blank hb]
  leaves val hv := by
    have other {c : Char} {cs : List Char} (hc : val = c :: cs) (hq : c ≠ '[')
        (hs : isSpace c = false) : Leaves fun rest => readList r (val ++ rest) :=
      leaves_mismatch "a sequence" hv fun rest => by
        simp [hc, readList, skipSpace_cons hs, hq]
    cases hv with
    | @array blank es hb apart values =>
      exact ⟨r.values es, fun rest _ => readList_array hr hb apart values rest⟩
    | number h =>
      obtain ⟨c, cs, hc, start⟩ := h.head
      exact other hc (ne_of_startsNumber start (by decide)) (StartsValue.not_isSpace (.inr start))
    | null | true | false | text | object => exact other rfl (by decide) (by decide)

theorem value_readList {blank : List Char} (hb : Blank blank) {es : List Element}
    (apart : ∀ e ∈ es, e.Apart) (values : ∀ e ∈ es, IsValue e.value) :
    (readList r).value (arrayText blank es) = r.values es :=
  value_of_read (readList_array hr hb apart values [])

end

end ForumDigest.Json
