import ForumDigest.Proofs.Json.Written

namespace ForumDigest.Json

variable {α : Type} (options : List (String × α))

theorem readUnit_value {e : Element} (apart : e.Apart) (hv : IsValue e.value) :
    ∃ result : Except Error Unit, ∀ rest, Stops (e.after ++ rest) →
      readConstant.readUnit (e.text ++ rest) = result.map fun _ => e.after ++ rest := by
  have front (rest : List Char) : skipSpace (e.text ++ rest) = e.value ++ (e.after ++ rest) := by
    rw [Element.text, List.append_assoc, List.append_assoc, skipSpace_blank apart.before,
      skipSpace_value hv]
  by_cases null : e.value = writeNull
  · refine ⟨.ok (), fun rest _ => ?_⟩
    rw [readConstant.readUnit, front, null]
    rfl
  · obtain ⟨err, refused⟩ := mismatch_value "unit" hv
    obtain ⟨c, cs, hc, start⟩ := hv.head
    have other : c ≠ 'n' := by
      rintro rfl
      exact null (hv.eq_null hc)
    refine ⟨.error err, fun rest hr => ?_⟩
    rw [readConstant.readUnit, front, ← refused _ hr, hc]
    simp [other, Except.map]

def readName : Reader α := (readText "variant identifier").refine (constant options)

theorem readName_member {b : List Char} (hb : Blank b) {m : Member} (apart : m.Apart)
    (rest : List Char) :
    readName options (b ++ (m.text ++ rest)) =
      (m.key.bind fun key => (constant options key).mapError .mismatch).map
        (·, m.between ++ ':' :: (m.value.text ++ rest)) := by
  have opened : readText "variant identifier" (b ++ (m.text ++ rest)) = string (m.inner rest) := by
    rw [readText, skipSpace_blank hb, m.text_append, skipSpace_blank apart.before,
      skipSpace_cons (by decide)]
    rfl
  rw [readName, Reader.refine, opened, Member.inner, apart.read_key]
  rcases m.key with e | key
  · rfl
  · simp only [Except.map, Except.bind]
    cases constant options key <;> rfl

def closeConstant (a : α) (cs : List Char) : Except Error (α × List Char) :=
  match skipSpace cs with
  | '\x7d' :: rest => .ok (a, rest)
  | [] => .error .ended
  | _ => .error .malformed

section Object

variable {options} {cs rest : List Char} {e : Error} {a : α}

theorem readConstant_unnamed (name : readName options cs = .error e) :
    readConstant options ('\x7b' :: cs) = .error e := by
  unfold readName at name
  simp [readConstant, skipSpace_cons, isSpace, name]

theorem readConstant_undone (name : readName options cs = .ok (a, rest))
    (unit : (colon rest).bind readConstant.readUnit = .error e) :
    readConstant options ('\x7b' :: cs) = .error e := by
  unfold readName at name
  simp [readConstant, skipSpace_cons, isSpace, name, unit]

theorem readConstant_named {tail : List Char} (name : readName options cs = .ok (a, rest))
    (unit : (colon rest).bind readConstant.readUnit = .ok tail) :
    readConstant options ('\x7b' :: cs) = closeConstant a tail := by
  unfold readName at name
  simp only [readConstant, skipSpace_cons (show isSpace '\x7b' = false by decide), name, unit]
  rfl

end Object

theorem readConstant_object {blank : List Char} (hb : Blank blank) {ms : List Member}
    (apart : ∀ m ∈ ms, m.Apart) (values : ∀ m ∈ ms, IsValue m.value.value) :
    Leaves fun rest => readConstant options (objectText blank ms ++ rest) := by
  simp only [objectText_append]
  cases ms with
  | nil =>
    refine .error (e := .malformed) fun rest _ => readConstant_unnamed ?_
    rw [readName, Reader.refine, readText, skipSpace_blank hb, List.map_nil, row_nil,
      List.nil_append, skipSpace_cons (by decide)]
    rfl
  | cons m ms =>
    have hm := apart m List.mem_cons_self
    obtain ⟨unit, read⟩ := readUnit_value hm.value (values m List.mem_cons_self)
    have member (rest : List Char) := readName_member options hb hm (membersTail ms rest)
    simp only [row_members]
    rcases hk : m.key.bind fun key => (constant options key).mapError .mismatch with e | a
    · refine .error (e := e) fun rest _ => readConstant_unnamed ?_
      rw [member, hk]
      rfl
    · have named (rest : List Char) :
          readName options (blank ++ (m.text ++ membersTail ms rest)) =
            .ok (a, m.between ++ ':' :: (m.value.text ++ membersTail ms rest)) := by
        rw [member, hk]
        rfl
      have reading (rest : List Char) :
          (colon (m.between ++ ':' :: (m.value.text ++ membersTail ms rest))).bind
            readConstant.readUnit = unit.map fun _ => m.value.after ++ membersTail ms rest := by
        rw [colon_blank hm.between]
        exact read _ (hm.value.stops_membersTail ms rest)
      cases unit with
      | error e => exact .error (e := e) fun rest _ => readConstant_undone (named rest) (reading rest)
      | ok u =>
        have closing (rest : List Char) := readConstant_named (named rest) (reading rest)
        simp only [closing, closeConstant, skipSpace_blank hm.value.after]
        cases ms with
        | nil => exact .ok (a := a) fun rest _ => rfl
        | cons d ms => exact .error (e := .malformed) fun rest _ => rfl

theorem exact_readConstant : (readConstant options).Exact where
  blank b cs hb := by simp only [readConstant, skipSpace_blank hb]
  leaves val hv := by
    have other {c : Char} {cs : List Char} (hc : val = c :: cs) (hq : c ≠ '"') (ho : c ≠ '\x7b')
        (hs : isSpace c = false) : Leaves fun rest => readConstant options (val ++ rest) := by
      refine .error (e := .malformed) fun rest _ => ?_
      simp [hc, readConstant, skipSpace_cons hs, hq, ho]
    cases hv with
    | text h =>
      exact (((exact_readText _).refine (constant options)).leaves _ (.text h)).congr fun rest _ => rfl
    | object hb apart values => exact readConstant_object options hb apart values
    | number h =>
      obtain ⟨c, cs, hc, start⟩ := h.head
      exact other hc (ne_of_startsNumber start (by decide)) (ne_of_startsNumber start (by decide))
        (StartsValue.not_isSpace (.inr start))
    | null | true | false | array => exact other rfl (by decide) (by decide) (by decide)

theorem restores_constant {name : String} {a : α} (h : options.lookup name = some a) :
    (readConstant options).Restores (writeString name) a where
  value := (restores_string name).value
  read := by
    have known : constant options name.toList = .ok a := by
      rw [constant, String.ofList_toList, h]
    have reading : readConstant options (writeString name) =
        (readText "variant identifier").refine (constant options) (writeString name) := rfl
    have text : readText "variant identifier" (writeString name) = .ok (name.toList, []) :=
      string_written name.toList []
    rw [Reader.value, reading, Reader.refine, text]
    simp only [known]
    rfl

end ForumDigest.Json
