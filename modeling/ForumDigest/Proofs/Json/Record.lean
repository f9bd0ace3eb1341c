import ForumDigest.Proofs.Json.Reader

namespace ForumDigest.Json

variable {σ : Type}

def Member.key (m : Member) : Except Error (List Char) := (string (m.name ++ ['"'])).map Prod.fst

theorem Member.Apart.read_key {m : Member} (h : m.Apart) (rest : List Char) :
    string (m.name ++ '"' :: rest) = m.key.map (·, rest) := by
  obtain ⟨result, read⟩ := string_leaves h.name
  rw [Member.key, read, read]
  cases result <;> rfl

def Member.Named (m : Member) (name : String) : Prop := m.key = .ok name.toList

theorem colon_blank {b : List Char} (hb : Blank b) (rest : List Char) :
    colon (b ++ ':' :: rest) = .ok rest := by
  unfold colon
  rw [skipSpace_blank hb, skipSpace_cons (by decide)]
  rfl

def Member.inner (m : Member) (rest : List Char) : List Char :=
  m.name ++ '"' :: (m.between ++ ':' :: (m.value.text ++ rest))

theorem Member.text_append (m : Member) (rest : List Char) :
    m.text ++ rest = m.before ++ '"' :: m.inner rest := by
  simp [Member.text, Member.inner]

theorem nextMember_first {b : List Char} (hb : Blank b) {m : Member} (apart : m.Apart)
    (rest : List Char) : nextMember true (b ++ (m.text ++ rest)) = .ok (some (m.inner rest)) := by
  unfold nextMember
  rw [skipSpace_blank hb, m.text_append, skipSpace_blank apart.before, skipSpace_cons (by decide)]
  rfl

theorem nextMember_comma {b : List Char} (hb : Blank b) {m : Member} (apart : m.Apart)
    (rest : List Char) :
    nextMember false (b ++ ',' :: (m.text ++ rest)) = .ok (some (m.inner rest)) := by
  unfold nextMember
  rw [skipSpace_blank hb, skipSpace_cons (by decide), m.text_append]
  simp only [skipSpace_blank apart.before, skipSpace_cons (show isSpace '"' = false by decide)]

theorem nextMember_end {b : List Char} (hb : Blank b) (first : Bool) (rest : List Char) :
    nextMember first (b ++ '\x7d' :: rest) = .ok none := by
  unfold nextMember
  rw [skipSpace_blank hb, skipSpace_cons (by decide)]
  cases first <;> rfl

def meet (fields : List (RecordField σ)) (state : σ × List String) (m : Member) :
    Except Error (σ × List String) :=
  m.key.bind fun key =>
    match fields.find? (·.name = String.ofList key) with
    | none => .ok state
    | some f =>
      if state.2.contains f.name then .error (duplicateField f.name)
      else ((f.read state.1).value m.value.value).map (·, f.name :: state.2)

theorem meet_named {m : Member} {name : String} (h : m.Named name) (fields : List (RecordField σ))
    (state : σ × List String) :
    meet fields state m =
      match fields.find? (·.name = name) with
      | none => .ok state
      | some f =>
        if state.2.contains f.name then .error (duplicateField f.name)
        else ((f.read state.1).value m.value.value).map (·, f.name :: state.2) := by
  have spelled : String.ofList name.toList = name := String.ofList_toList
  rw [Member.Named] at h
  generalize name.toList = key at h spelled
  subst spelled
  rw [meet, h]
  rfl

def settle (fields : List (RecordField σ)) (state : σ × List String) : Except Error σ :=
  match missing? fields state.2 with
  | some name => .error (missingField name)
  | none => .ok state.1

def place (title : String) (count : Nat) :
    (fields : List (RecordField σ)) → (index : Nat) → σ → List Element → Except Error σ
  | [], _, s, [] => .ok s
  | [], _, _, _ :: _ => .error .malformed
  | f :: fields, index, s, [] =>
    match (f :: fields).findIdx? (·.need ≠ .nowhere) with
    | some i => .error (invalidLength (index + i) title count)
    | none => .ok s
  | f :: fields, index, s, e :: es =>
    ((f.read s).value e.value).bind fun s' => place title count fields (index + 1) s' es

def ExactFields (fields : List (RecordField σ)) : Prop := ∀ f ∈ fields, ∀ s, (f.read s).Exact

theorem ExactFields.nil : ExactFields ([] : List (RecordField σ)) := by
  intro f hf
  cases hf

theorem ExactFields.cons {r : Reader α} (h : r.Exact) {fields : List (RecordField σ)}
    (hs : ExactFields fields) {name : String} {need : Need} {store : σ → α → σ} :
    ExactFields (.of name need r store :: fields) :=
  List.forall_mem_cons.mpr ⟨fun s => h.map (store s), hs⟩

section

variable {fields : List (RecordField σ)} (hf : ExactFields fields)
include hf

theorem members_inner {m : Member} (apart : m.Apart) (hv : IsValue m.value.value) {first : Bool}
    {cs rest : List Char} (hn : nextMember first cs = .ok (some (m.inner rest)))
    (stop : Stops (m.value.after ++ rest)) (fuel : Nat) (s : σ) (seen : List String) :
    members fields (fuel + 1) first seen s cs =
      match meet fields (s, seen) m with
      | .error e => .error e
      | .ok (s', seen') => members fields fuel false seen' s' (m.value.after ++ rest) := by
  have text : m.value.text ++ rest =
      m.value.before ++ (m.value.value ++ (m.value.after ++ rest)) := by
    simp [Element.text]
  rw [members.eq_2, hn]
  simp only [Member.inner, apart.read_key, meet]
  rcases m.key with e | key
  · rfl
  simp only [Except.map, colon_blank apart.between, Except.bind, text]
  rcases hs : fields.find? (·.name = String.ofList key) with _ | f
  · rw [hs, skip_value apart.value.before hv stop]
  · have read := (hf f (List.mem_of_find?_eq_some hs) s).read apart.value.before hv stop
    rw [hs]
    dsimp only
    split
    · rfl
    · rw [read]
      rcases (f.read s).value m.value.value with e | s' <;> rfl

theorem members_tail {ms : List Member} (apart : ∀ m ∈ ms, m.Apart)
    (values : ∀ m ∈ ms, IsValue m.value.value) {b : List Char} (hb : Blank b) {fuel : Nat}
    (long : ms.length < fuel) (s : σ) (seen : List String) (rest : List Char) :
    ∃ b', Blank b' ∧ members fields fuel false seen s (b ++ membersTail ms rest) =
      (ms.foldlM (meet fields) (s, seen)).map (·, b' ++ '\x7d' :: rest) := by
  -- What was read and met so far differs from member to member, so the fold starts anywhere.
  induction ms generalizing b fuel s seen with
  | nil =>
    obtain ⟨fuel, rfl⟩ := Nat.exists_eq_succ_of_ne_zero (Nat.ne_of_gt long)
    refine ⟨b, hb, ?_⟩
    unfold members
    rw [show b ++ membersTail [] rest = b ++ '\x7d' :: rest from rfl, nextMember_end hb]
    rfl
  | cons m ms ih =>
    obtain ⟨fuel, rfl⟩ := Nat.exists_eq_succ_of_ne_zero (Nat.ne_of_gt (Nat.zero_lt_of_lt long))
    have hm := apart m List.mem_cons_self
    rw [membersTail_cons, members_inner hf hm (values m List.mem_cons_self)
      (nextMember_comma hb hm _) (hm.value.stops_membersTail ms rest),
      List.foldlM_cons]
    rcases meet fields (s, seen) m with e | ⟨s', seen'⟩
    · exact ⟨[], fun _ h => (List.not_mem_nil h).elim, rfl⟩
    · exact ih (fun d hd => apart d (List.mem_cons_of_mem m hd))
        (fun d hd => values d (List.mem_cons_of_mem m hd)) hm.value.after
        (Nat.lt_of_succ_lt_succ long) s' seen'

theorem readMembers_object {blank : List Char} (hb : Blank blank) {ms : List Member}
    (apart : ∀ m ∈ ms, m.Apart) (values : ∀ m ∈ ms, IsValue m.value.value) (start : σ)
    (rest : List Char) :
    readMembers fields start (blank ++ (row (ms.map Member.text) ++ '\x7d' :: rest)) =
      ((ms.foldlM (meet fields) (start, [])).bind (settle fields)).map (·, rest) := by
  have read : ∃ b', Blank b' ∧
      members fields ((blank ++ (row (ms.map Member.text) ++ '\x7d' :: rest)).length + 1) true []
        start (blank ++ (row (ms.map Member.text) ++ '\x7d' :: rest)) =
      (ms.foldlM (meet fields) (start, [])).map (·, b' ++ '\x7d' :: rest) := by
    cases ms with
    | nil =>
      refine ⟨blank, hb, ?_⟩
      unfold members
      rw [List.map_nil, row_nil, List.nil_append, nextMember_end hb]
      rfl
    | cons m ms =>
      have hm := apart m List.mem_cons_self
      have long : ms.length < (blank ++ (m.text ++ membersTail ms rest)).length := by
        have := length_membersTail ms rest
        simp only [List.length_append]
        omega
      rw [row_members, members_inner hf hm (values m List.mem_cons_self)
        (nextMember_first hb hm _) (hm.value.stops_membersTail ms rest),
        List.foldlM_cons]
      rcases meet fields (start, []) m with e | ⟨s', seen'⟩
      · exact ⟨[], fun _ h => (List.not_mem_nil h).elim, rfl⟩
      · exact members_tail hf (fun d hd => apart d (List.mem_cons_of_mem m hd))
          (fun d hd => values d (List.mem_cons_of_mem m hd)) hm.value.after long s' seen' rest
  obtain ⟨b', hb', read⟩ := read
  unfold readMembers
  rw [read]
  rcases ms.foldlM (meet fields) (start, []) with e | ⟨s, seen⟩
  · rfl
  · simp only [Except.map, Except.bind, settle]
    rcases missing? fields seen with _ | name
    · simp only [skipSpace_blank hb', skipSpace_cons (show isSpace '\x7d' = false by decide)]
    · rfl

omit hf in
theorem closeArray_surplus {cs : List Char} {c : Char} {rest : List Char}
    (h : skipSpace cs = c :: rest) (hc : c ≠ ']') : closeArray cs = .error .malformed := by
  unfold closeArray
  rw [h]
  simp [hc]

omit hf in
theorem positions_end (title : String) (count : Nat) (fields : List (RecordField σ)) (index : Nat)
    {b : List Char} (hb : Blank b) (s : σ) (rest : List Char) :
    ((positions title count fields index s (b ++ ']' :: rest)).bind fun (s, rest) =>
      (closeArray rest).map (s, ·)) = (place title count fields index s []).map (·, rest) := by
  have closed : (closeArray (b ++ ']' :: rest)).map (s, ·) = .ok (s, rest) := by
    rw [closeArray_end hb]
    rfl
  cases fields with
  | nil => exact closed
  | cons f fields =>
    rw [positions, nextElement_end hb, place]
    dsimp only
    generalize List.findIdx? _ (f :: fields) = found
    cases found with
    | none => exact closed
    | some i => rfl

theorem positions_tail (title : String) (count : Nat) {es : List Element}
    (apart : ∀ e ∈ es, e.Apart) (values : ∀ e ∈ es, IsValue e.value) {b : List Char} (hb : Blank b)
    {index : Nat} (hi : index ≠ 0) (s : σ) (rest : List Char) :
    ((positions title count fields index s (b ++ elementsTail es rest)).bind fun (s, rest) =>
      (closeArray rest).map (s, ·)) = (place title count fields index s es).map (·, rest) := by
  -- Each field takes one element. Where the fields end first, the rest of the array is a surplus.
  induction fields generalizing b index s es with
  | nil =>
    cases es with
    | nil => exact positions_end title count [] index hb s rest
    | cons e es =>
      change (closeArray (b ++ elementsTail (e :: es) rest)).map _ = _
      rw [elementsTail_cons, closeArray_surplus (by rw [skipSpace_blank hb, skipSpace_cons]; decide)
        (by decide)]
      rfl
  | cons f fields ih =>
    have first : decide (index = 0) = false := decide_eq_false hi
    cases es with
    | nil => exact positions_end title count (f :: fields) index hb s rest
    | cons e es =>
      have he := apart e List.mem_cons_self
      have hv := values e List.mem_cons_self
      have read := (hf f List.mem_cons_self s).read (b := []) (fun _ h => by cases h) hv
        (he.stops_elementsTail es rest)
      rw [List.nil_append] at read
      rw [positions, first, elementsTail_cons, nextElement_comma hb he hv, place]
      dsimp only
      rw [read]
      rcases (f.read s).value e.value with err | s'
      · rfl
      · exact ih (fun g hg => hf g (List.mem_cons_of_mem f hg))
          (fun d hd => apart d (List.mem_cons_of_mem e hd))
          (fun d hd => values d (List.mem_cons_of_mem e hd)) he.after (Nat.succ_ne_zero index) s'

theorem positions_first (title : String) (count : Nat) {es : List Element}
    (apart : ∀ e ∈ es, e.Apart) (values : ∀ e ∈ es, IsValue e.value) {b : List Char} (hb : Blank b)
    (s : σ) (rest : List Char) :
    ((positions title count fields 0 s (b ++ (row (es.map Element.text) ++ ']' :: rest))).bind
      fun (s, rest) => (closeArray rest).map (s, ·)) =
      (place title count fields 0 s es).map (·, rest) := by
  cases fields with
  | nil =>
    cases es with
    | nil => exact positions_end title count [] 0 hb s rest
    | cons e es =>
      change (closeArray (b ++ (row ((e :: es).map Element.text) ++ ']' :: rest))).map _ = _
      have hv := values e List.mem_cons_self
      have start := skipSpace_value hv (e.after ++ elementsTail es rest)
      obtain ⟨c, cs, hc, starts⟩ := hv.head
      have inner : skipSpace (b ++ (e.text ++ elementsTail es rest)) =
          c :: (cs ++ (e.after ++ elementsTail es rest)) := by
        rw [skipSpace_blank hb, Element.text, List.append_assoc, List.append_assoc,
          skipSpace_blank (apart e List.mem_cons_self).before, start, hc, List.cons_append]
      rw [row_elements, closeArray_surplus inner (starts.ne (by decide) (by decide))]
      rfl
  | cons f fields =>
    cases es with
    | nil => exact positions_end title count (f :: fields) 0 hb s rest
    | cons e es =>
      have he := apart e List.mem_cons_self
      have hv := values e List.mem_cons_self
      have read := (hf f List.mem_cons_self s).read (b := []) (fun _ h => by cases h) hv
        (he.stops_elementsTail es rest)
      have one : decide (0 = 0) = true := rfl
      rw [List.nil_append] at read
      rw [positions, row_elements, one, nextElement_first hb he hv, place]
      dsimp only
      rw [read]
      rcases (f.read s).value e.value with err | s'
      · rfl
      · exact positions_tail (fun g hg => hf g (List.mem_cons_of_mem f hg)) title count
          (fun d hd => apart d (List.mem_cons_of_mem e hd))
          (fun d hd => values d (List.mem_cons_of_mem e hd)) he.after Nat.one_ne_zero s' rest

omit hf in
theorem readRecord_bracket (title : String) (start : σ) (cs : List Char) :
    readRecord title fields start ('[' :: cs) =
      (positions title fields.length fields 0 start cs).bind fun (s, rest) =>
        (closeArray rest).map (s, ·) := by
  simp only [readRecord, skipSpace_cons (show isSpace '[' = false by decide)]
  rcases positions title fields.length fields 0 start cs with e | ⟨s, rest⟩ <;> rfl

theorem readRecord_object (title : String) {blank : List Char} (hb : Blank blank)
    {ms : List Member} (apart : ∀ m ∈ ms, m.Apart) (values : ∀ m ∈ ms, IsValue m.value.value)
    (start : σ) (rest : List Char) :
    readRecord title fields start (objectText blank ms ++ rest) =
      ((ms.foldlM (meet fields) (start, [])).bind (settle fields)).map (·, rest) := by
  rw [← readMembers_object hf hb apart values start rest, objectText_append]
  rfl

theorem readRecord_array (title : String) {blank : List Char} (hb : Blank blank)
    {es : List Element} (apart : ∀ e ∈ es, e.Apart) (values : ∀ e ∈ es, IsValue e.value)
    (start : σ) (rest : List Char) :
    readRecord title fields start (arrayText blank es ++ rest) =
      (place title fields.length fields 0 start es).map (·, rest) := by
  rw [← positions_first hf title fields.length apart values hb start rest, arrayText_append,
    readRecord_bracket]

theorem exact_readRecord (title : String) (start : σ) : (readRecord title fields start).Exact where
  blank b cs hb := by simp only [readRecord, skipSpace_blank hb]
  leaves val hv := by
    have other {c : Char} {cs : List Char} (hc : val = c :: cs) (array : c ≠ '[')
        (object : c ≠ '\x7b') (hs : isSpace c = false) :
        Leaves fun rest => readRecord title fields start (val ++ rest) :=
      leaves_mismatch ("struct " ++ title) hv fun rest => by
        simp [hc, readRecord, skipSpace_cons hs, array, object]
    cases hv with
    | array hb apart values =>
      exact ⟨_, fun rest _ => readRecord_array hf title hb apart values start rest⟩
    | object hb apart values =>
      exact ⟨_, fun rest _ => readRecord_object hf title hb apart values start rest⟩
    | number h =>
      obtain ⟨c, cs, hc, start⟩ := h.head
      exact other hc (ne_of_startsNumber start (by decide)) (ne_of_startsNumber start (by decide))
        (StartsValue.not_isSpace (.inr start))
    | null | true | false | text => exact other rfl (by decide) (by decide) (by decide)

theorem value_readRecord_object (title : String) {blank : List Char} (hb : Blank blank)
    {ms : List Member} (apart : ∀ m ∈ ms, m.Apart) (values : ∀ m ∈ ms, IsValue m.value.value)
    (start : σ) :
    (readRecord title fields start).value (objectText blank ms) =
      (ms.foldlM (meet fields) (start, [])).bind (settle fields) :=
  value_of_read (readRecord_object hf title hb apart values start [])

theorem value_readRecord_array (title : String) {blank : List Char} (hb : Blank blank)
    {es : List Element} (apart : ∀ e ∈ es, e.Apart) (values : ∀ e ∈ es, IsValue e.value)
    (start : σ) :
    (readRecord title fields start).value (arrayText blank es) =
      place title fields.length fields 0 start es :=
  value_of_read (readRecord_array hf title hb apart values start [])

end

end ForumDigest.Json
