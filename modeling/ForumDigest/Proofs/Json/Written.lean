import ForumDigest.Json.Write
import ForumDigest.Proofs.Json.Record

namespace ForumDigest.Json

variable {α β σ : Type}

/-- The text is a JSON value, and `a` is read of it. -/
structure Reader.Restores (r : Reader α) (val : List Char) (a : α) : Prop where
  value : IsValue val
  read : r.value val = .ok a

theorem Reader.Restores.map {r : Reader α} {val : List Char} {a : α} (h : r.Restores val a)
    (f : α → β) : (r.map f).Restores val (f a) where
  value := h.value
  read := by rw [value_map, h.read]; rfl

theorem Reader.Restores.refine {r : Reader α} {val : List Char} {a : α} (h : r.Restores val a)
    {f : α → Except String β} {b : β} (hf : f a = .ok b) : (r.refine f).Restores val b where
  value := h.value
  read := by
    have read := h.read
    unfold Reader.value Reader.refine at *
    rcases hr : r val with e | ⟨a', rest⟩
    · rw [hr] at read
      cases read
    · rw [hr] at read
      obtain rfl : a' = a := Except.ok.inj read
      simp only [hf]
      rfl

theorem Reader.Restores.decode {r : Reader α} {val : List Char} {a : α} (h : r.Restores val a)
    (exact : r.Exact) : decode r (String.ofList val) = .ok a := by
  have reading := decode_value exact blank_nil h.value blank_nil
  rw [List.nil_append, List.append_nil] at reading
  rw [reading, h.read]

theorem unit?_hexDigit :
    ∀ n < 0x20, unit? '0' '0' (hexDigit (n / 16)) (hexDigit (n % 16)) = some n := by
  decide

theorem string_writeChar (c : Char) (cs : List Char) :
    string (writeChar c ++ cs) = (string cs).map fun (text, rest) => (c :: text, rest) := by
  unfold writeChar
  split
  case h_8 quote backslash _ _ _ _ _ =>
    split
    · have digits := unit?_hexDigit c.toNat ‹_›
      have trailing : isTrailing c.toNat = false := by
        simp [isTrailing]
        omega
      have leading : isLeading c.toNat = false := by
        simp [isLeading]
        omega
      have reading := string_unit digits trailing leading cs
      rw [Char.ofNat_toNat] at reading
      exact reading
    · exact string_plain quote backslash (Nat.not_lt.mp ‹_›) cs
  all_goals exact string_escape rfl cs

theorem isText_writeChar (c : Char) {cs : List Char} (h : IsText cs) :
    IsText (writeChar c ++ cs) := by
  unfold writeChar
  split
  case h_8 quote backslash _ _ _ _ _ =>
    split
    · exact .unit (by rw [unit?_hexDigit c.toNat ‹_›]; rfl) h
    · exact .plain quote backslash (Nat.not_lt.mp ‹_›) h
  all_goals exact .escape rfl h

theorem isText_written (cs : List Char) : IsText (cs.flatMap writeChar) := by
  induction cs with
  | nil => exact .nil
  | cons c cs ih => exact isText_writeChar c ih

theorem string_written (cs rest : List Char) :
    string (cs.flatMap writeChar ++ '"' :: rest) = .ok (cs, rest) := by
  induction cs with
  | nil => rfl
  | cons c cs ih =>
    rw [List.flatMap_cons, List.append_assoc, string_writeChar, ih]
    rfl

theorem restores_text (expected : String) (cs : List Char) :
    (readText expected).Restores (writeText cs) cs where
  value := .text (isText_written cs)
  read := by
    have reading : readText expected (writeText cs) = .ok (cs, []) := string_written cs []
    rw [Reader.value, reading]
    rfl

theorem restores_string (s : String) : readString.Restores (writeString s) s := by
  have reading := (restores_text "a string" s.toList).map String.ofList
  rw [String.ofList_toList] at reading
  exact reading

theorem restores_bool (b : Bool) : readBool.Restores (writeBool b) b := by
  cases b with
  | true => exact ⟨.true, rfl⟩
  | false => exact ⟨.false, rfl⟩

theorem le_ofDigitChars (ds : List Char) (n : Nat) : n ≤ Nat.ofDigitChars 10 ds n := by
  induction ds generalizing n with
  | nil => exact Nat.le_refl n
  | cons d ds ih =>
    rw [Nat.ofDigitChars_cons]
    have := ih (10 * n + (d.toNat - '0'.toNat))
    omega

theorem accumulate_of_lt {limit n : Nat} {ds : List Char} (h : Nat.ofDigitChars 10 ds n < limit) :
    accumulate limit n ds = (Nat.ofDigitChars 10 ds n, []) := by
  induction ds generalizing n with
  | nil => rfl
  | cons d ds ih =>
    have same : n * 10 + digitValue d = 10 * n + (d.toNat - '0'.toNat) := by
      rw [Nat.mul_comm]
      rfl
    rw [Nat.ofDigitChars_cons] at h ⊢
    have below := Nat.lt_of_le_of_lt (le_ofDigitChars ds _) h
    simp only [accumulate, same, if_pos below]
    exact ih h

theorem accumulate_writeNat {limit n : Nat} (h : n < limit) :
    accumulate limit 0 (writeNat n) = (n, []) := by
  have value : Nat.ofDigitChars 10 (writeNat n) 0 = n :=
    Nat.ofDigitChars_toDigits (by decide) (by decide)
  rw [accumulate_of_lt (by rw [value]; exact h), value]

theorem digits_writeNat (n : Nat) : Digits (writeNat n) where
  nonempty := Nat.toDigits_ne_nil
  digits _ hc := Nat.isDigit_of_mem_toDigits (by decide) (by decide) hc

theorem isWhole_writeNat (n : Nat) : IsWhole (writeNat n) where
  toDigits := digits_writeNat n
  unpadded := by
    -- All digits but the last are those of the tenth part, which is not zero.
    induction n using Nat.strongRecOn with
    | _ n ih =>
      intro ds h
      rw [writeNat, Nat.toDigits_eq_if (by decide)] at h
      split at h
      · exact (List.cons.inj h).2.symm
      · have tenth := ih (n / 10) (by omega)
        cases hd : Nat.toDigits 10 (n / 10) with
        | nil => exact absurd hd Nat.toDigits_ne_nil
        | cons e es =>
          rw [hd] at h
          obtain ⟨rfl, -⟩ := List.cons.inj h
          have none := tenth es hd
          subst none
          have value := @Nat.ofDigitChars_toDigits 10 (n / 10) (by decide) (by decide)
          rw [hd] at value
          have zero : n / 10 = 0 := value.symm
          omega

theorem isNumeral_writeInt (n : Int) : IsNumeral (writeInt n) := by
  have numeral (sign : List Char) (hs : sign ∈ [[], ['-']]) :
      IsNumeral (sign ++ writeNat n.natAbs) := by
    have := IsNumeral.mk hs (isWhole_writeNat n.natAbs) .none .none
    rwa [List.append_nil, List.append_nil] at this
  unfold writeInt
  split
  · exact numeral ['-'] (by decide)
  · exact numeral [] (by decide)

theorem unsigned_writeNat (negative : Bool) {n : Nat} (h : n < wordLimit) :
    unsigned negative (writeNat n) =
      if !negative then .ok (.natural n, [])
      else if 0 < n ∧ n ≤ 0x8000000000000000 then .ok (.negative n, [])
      else realNumber true n 0 [] := by
  have reading := unsigned_digits negative (isWhole_writeNat n) stops_nil.undigited
  rw [List.append_nil, accumulate_writeNat h] at reading
  exact reading

theorem readNumber_digits (kind : String) {cs : List Char} (h : IsNumeral cs) :
    readNumber kind cs = number cs := by
  obtain ⟨c, ds, rfl, start⟩ := h.head
  simp only [readNumber, skipSpace_cons (StartsValue.not_isSpace (.inr start)), start, if_true]

theorem number_writeInt {n : Int} (least : -0x8000000000000000 ≤ n)
    (greatest : n < 0x10000000000000000) :
    number (writeInt n) = .ok (if n < 0 then .negative n.natAbs else .natural n.natAbs, []) := by
  have limit : n.natAbs < wordLimit := by
    have : wordLimit = 0x10000000000000000 := rfl
    omega
  unfold writeInt
  split
  · have bounds : 0 < n.natAbs ∧ n.natAbs ≤ 0x8000000000000000 := by omega
    rw [number, unsigned_writeNat true limit, if_neg (by decide), if_pos bounds]
  · obtain ⟨d, ds, hd⟩ := List.exists_cons_of_ne_nil (digits_writeNat n.natAbs).nonempty
    have minus : d ≠ '-' := by
      rintro rfl
      exact absurd ((digits_writeNat n.natAbs).digits _ (hd ▸ List.mem_cons_self)) (by decide)
    have unsigned := unsigned_writeNat false limit
    rw [hd] at unsigned ⊢
    simpa [number, minus] using unsigned

theorem restores_int (kind : String) {low high n : Int} (hl : low ≤ n) (hh : n ≤ high)
    (least : -0x8000000000000000 ≤ n) (greatest : n < 0x10000000000000000) :
    (readInt low high kind).Restores (writeInt n) n where
  value := .number (isNumeral_writeInt n)
  read := by
    have reading : readNumber kind (writeInt n) =
        .ok (if n < 0 then .negative n.natAbs else .natural n.natAbs, []) :=
      (readNumber_digits kind (isNumeral_writeInt n)).trans (number_writeInt least greatest)
    have bounds : low ≤ n ∧ n ≤ high := ⟨hl, hh⟩
    rw [Reader.value]
    by_cases hn : n < 0
    · have same : -(n.natAbs : Int) = n := by omega
      simp only [readInt, reading, if_pos hn, same, if_pos bounds]
      rfl
    · have same : (n.natAbs : Int) = n := by omega
      simp only [readInt, reading, if_neg hn, same, if_pos bounds]
      rfl

theorem writeInt_natCast (n : Nat) : writeInt n = writeNat n := by
  rw [writeInt, if_neg (by omega), Int.natAbs_natCast]

theorem restores_int32 (n : Int32) : readInt32.Restores (writeInt n.toInt) n := by
  have low : -2147483648 ≤ n.toInt := n.minValue_le_toInt
  have high : n.toInt ≤ 2147483647 := n.toInt_le
  have reading := (restores_int "i32" low high (by omega) (by omega)).map Int32.ofInt
  rw [Int32.ofInt_toInt] at reading
  exact reading

theorem restores_uint32 (n : UInt32) : readUInt32.Restores (writeNat n.toNat) n := by
  have high := n.toNat_lt
  have whole : (readInt 0 4294967295 "u32").Restores (writeInt n.toNat) n.toNat :=
    restores_int "u32" (by omega) (by omega) (by omega) (by omega)
  have reading := whole.map fun n => UInt32.ofNat n.toNat
  rw [writeInt_natCast, Int.toNat_natCast, UInt32.ofNat_toNat] at reading
  exact reading

theorem restores_size (n : UInt64) : readSize.Restores (writeNat n.toNat) n := by
  have high := n.toNat_lt
  have whole : (readInt 0 18446744073709551615 "usize").Restores (writeInt n.toNat) n.toNat :=
    restores_int "usize" (by omega) (by omega) (by omega) (by omega)
  have reading := whole.map fun n => UInt64.ofNat n.toNat
  rw [writeInt_natCast, Int.toNat_natCast, UInt64.ofNat_toNat] at reading
  exact reading

theorem IsValue.eq_null {val cs : List Char} (h : IsValue val) (hc : val = 'n' :: cs) :
    val = writeNull := by
  cases h with
  | null => rfl
  | number h =>
    obtain ⟨c, ds, hd, start⟩ := h.head
    obtain ⟨rfl, -⟩ := List.cons.inj (hd.symm.trans hc)
    exact absurd start (by decide)
  | true | false | text | array | object => cases hc

theorem readOption_value {r : Reader α} {val : List Char} (h : IsValue val) (hn : val ≠ writeNull) :
    readOption r val = r.map some val := by
  obtain ⟨c, cs, hc, start⟩ := h.head
  have other : c ≠ 'n' := by
    rintro rfl
    exact hn (h.eq_null hc)
  rw [hc]
  exact readOption_some r other start.not_isSpace cs

theorem restores_none (r : Reader α) : (readOption r).Restores writeNull none :=
  ⟨.null, rfl⟩

theorem Reader.Restores.some {r : Reader α} {val : List Char} {a : α} (h : r.Restores val a)
    (hn : val ≠ writeNull) : (readOption r).Restores val (some a) where
  value := h.value
  read := by
    rw [Reader.value, readOption_value h.value hn]
    exact (h.map Option.some).read

theorem restores_option {r : Reader α} {write : α → List Char} {o : Option α}
    (h : ∀ a ∈ o, r.Restores (write a) a) (hn : ∀ a, write a ≠ writeNull) :
    (readOption r).Restores (writeOption write o) o := by
  cases o with
  | none => exact restores_none r
  | some a => exact (h a rfl).some (hn a)

theorem writeText_ne_null (cs : List Char) : writeText cs ≠ writeNull := by
  rintro ⟨⟩

theorem writeList_ne_null (write : α → List Char) (as : List α) :
    writeList write as ≠ writeNull := by
  rintro ⟨⟩

theorem writeObject_ne_null (members : List (String × List Char)) :
    writeObject members ≠ writeNull := by
  rintro ⟨⟩

theorem restores_optional (s : Option String) :
    (readOption readString).Restores (writeOption writeString s) s :=
  restores_option (fun a _ => restores_string a) fun a => writeText_ne_null a.toList

theorem Element.text_tight (val : List Char) : (Element.tight val).text = val :=
  List.append_nil val

theorem writeList_eq (write : α → List Char) (as : List α) :
    writeList write as = arrayText [] (as.map fun a => .tight (write a)) := by
  have texts : (as.map fun a => Element.tight (write a)).map Element.text = as.map write := by
    rw [List.map_map]
    exact List.map_congr_left fun a _ => Element.text_tight (write a)
  rw [arrayText, texts]
  rfl

theorem values_tight {r : Reader α} {write : α → List Char} {as : List α}
    (h : ∀ a ∈ as, r.Restores (write a) a) :
    r.values (as.map fun a => .tight (write a)) = .ok as := by
  induction as with
  | nil => rfl
  | cons a as ih =>
    have first : r.value (Element.tight (write a)).value = .ok a := (h a List.mem_cons_self).read
    rw [List.map_cons, values_cons, first, ih fun b hb => h b (List.mem_cons_of_mem a hb)]
    rfl

theorem restores_list {r : Reader α} (exact : r.Exact) {write : α → List Char} {as : List α}
    (h : ∀ a ∈ as, r.Restores (write a) a) : (readList r).Restores (writeList write as) as := by
  have apart : ∀ e ∈ as.map fun a => Element.tight (write a), e.Apart := by
    intro e he
    obtain ⟨a, -, rfl⟩ := List.mem_map.mp he
    exact Element.apart_tight (write a)
  have values : ∀ e ∈ as.map fun a => Element.tight (write a), IsValue e.value := by
    intro e he
    obtain ⟨a, ha, rfl⟩ := List.mem_map.mp he
    exact (h a ha).value
  rw [writeList_eq]
  exact ⟨.array blank_nil apart values,
    (value_readList exact blank_nil apart values).trans (values_tight h)⟩

def Member.written (m : String × List Char) : Member :=
  { name := m.1.toList.flatMap writeChar, value := .tight m.2 }

theorem Member.text_written (m : String × List Char) : (Member.written m).text = writeMember m := by
  simp [Member.text, Member.written, Element.text_tight, writeMember, writeString, writeText]

theorem Member.apart_written (m : String × List Char) : (Member.written m).Apart :=
  ⟨blank_nil, isText_written m.1.toList, blank_nil, Element.apart_tight m.2⟩

theorem Member.named_written (m : String × List Char) : (Member.written m).Named m.1 := by
  have spelled := string_written m.1.toList []
  rw [Named, key, written, spelled]
  rfl

theorem writeObject_eq (members : List (String × List Char)) :
    writeObject members = objectText [] (members.map .written) := by
  have texts : (members.map Member.written).map Member.text = members.map writeMember := by
    rw [List.map_map]
    exact List.map_congr_left fun m _ => Member.text_written m
  rw [objectText, texts]
  rfl

/-- The fields are written in order, each under its name, and store what is restored of them. -/
inductive Fills : List (RecordField σ) → σ → List (String × List Char) → σ → Prop where
  | nil {s : σ} : Fills [] s [] s
  | cons {α : Type} {name : String} {need : Need} {r : Reader α} {store : σ → α → σ}
    {fields : List (RecordField σ)} {s s' : σ} {val : List Char} {a : α}
    {members : List (String × List Char)} (h : r.Restores val a)
    (rest : Fills fields (store s a) members s') :
    Fills (.of name need r store :: fields) s ((name, val) :: members) s'

section

variable {fields done gs : List (RecordField σ)} {s s' : σ} {members : List (String × List Char)}

theorem name_not_mem_of_nodup {f : RecordField σ}
    (nodup : ((done ++ f :: gs).map RecordField.name).Nodup) :
    f.name ∉ done.map RecordField.name := by
  rw [List.map_append, List.map_cons, List.nodup_append] at nodup
  exact fun hf => nodup.2.2 f.name hf f.name List.mem_cons_self rfl

theorem find?_field {f : RecordField σ} (nodup : ((done ++ f :: gs).map RecordField.name).Nodup) :
    (done ++ f :: gs).find? (·.name = f.name) = some f := by
  have others : done.find? (·.name = f.name) = none := by
    rw [List.find?_eq_none]
    intro g hg same
    have hm : g.name ∈ done.map RecordField.name := List.mem_map_of_mem hg
    rw [of_decide_eq_true same] at hm
    exact name_not_mem_of_nodup nodup hm
  rw [List.find?_append, others, Option.none_or]
  exact List.find?_cons_of_pos (decide_eq_true rfl)

/-- The members fill the fields one by one. The names met are those of the fields filled before. -/
theorem Fills.foldlM (h : Fills gs s members s') {seen : List String}
    (nodup : ((done ++ gs).map RecordField.name).Nodup)
    (met : ∀ n, n ∈ seen ↔ n ∈ done.map RecordField.name) :
    ∃ seen', (members.map .written).foldlM (meet (done ++ gs)) (s, seen) = .ok (s', seen') ∧
      ∀ f ∈ done ++ gs, f.name ∈ seen' := by
  induction h generalizing done seen with
  | nil =>
    refine ⟨seen, rfl, fun f hf => (met f.name).mpr ?_⟩
    rw [List.append_nil] at hf
    exact List.mem_map_of_mem hf
  | @cons α name need r store gs s s' val a members h _ ih =>
    have unmet : name ∉ seen := fun hn => name_not_mem_of_nodup nodup ((met name).mp hn)
    have found : (done ++ .of name need r store :: gs).find? (·.name = name) =
        some (.of name need r store) := find?_field nodup
    have stored : ((RecordField.of name need r store).read s).value val = .ok (store s a) :=
      (h.map (store s)).read
    have first : meet (done ++ .of name need r store :: gs) (s, seen) (.written (name, val)) =
        .ok (store s a, name :: seen) := by
      rw [meet_named (Member.named_written (name, val)), found]
      dsimp only [Member.written, Element.tight]
      rw [stored, if_neg (by simpa [RecordField.of] using unmet)]
      rfl
    rw [List.append_cons] at nodup first ⊢
    rw [List.map_cons, List.foldlM_cons, first]
    refine ih nodup fun n => ?_
    rw [List.mem_cons, met, List.map_append, List.mem_append, or_comm]
    exact or_congr Iff.rfl List.mem_singleton.symm

theorem Fills.values (h : Fills fields s members s') : ∀ m ∈ members, IsValue m.2 := by
  induction h with
  | nil => simp
  | cons h _ ih => exact List.forall_mem_cons.mpr ⟨h.value, ih⟩

theorem restores_record (title : String) (exact : ExactFields fields)
    (nodup : (fields.map RecordField.name).Nodup) (h : Fills fields s members s') :
    (readRecord title fields s).Restores (writeObject members) s' := by
  have apart : ∀ m ∈ members.map Member.written, m.Apart := by
    intro m hm
    obtain ⟨n, -, rfl⟩ := List.mem_map.mp hm
    exact Member.apart_written n
  have values : ∀ m ∈ members.map Member.written, IsValue m.value.value := by
    intro m hm
    obtain ⟨n, hn, rfl⟩ := List.mem_map.mp hm
    exact h.values n hn
  obtain ⟨seen, filled, all⟩ := @Fills.foldlM σ [] fields s s' members h [] nodup fun _ => Iff.rfl
  have complete : missing? fields seen = none := by
    rw [missing?, Option.map_eq_none_iff, List.find?_eq_none]
    intro f hf
    simp [all f hf]
  rw [writeObject_eq]
  refine ⟨.object blank_nil apart values, ?_⟩
  rw [value_readRecord_object exact title blank_nil apart values, ← List.nil_append fields, filled]
  simp only [Except.bind, settle, List.nil_append, complete]

end

end ForumDigest.Json
