import ForumDigest.Proofs.Url.Form
import Mathlib.Data.List.TakeWhile

namespace ForumDigest.Url.Form

open Text Percent

variable {reserved : Char → Bool} {c d : Char} {cs xs ys : List Char}

def meaning (cs : List Char) : List Char :=
  Utf8.decodeLossy (Percent.decode (spaced (Utf8.encode cs)))

theorem decodeText_eq_meaning (cs : List Char) : decodeText cs = String.ofList (meaning cs) := rfl

/-- The encoding leaves alone what divides a form, and the plus sign. -/
structure SparingForm (reserved : Char → Bool) : Prop extends Sparing reserved where
  ampersand : reserved '&' = false
  equals : reserved '=' = false
  plus : reserved '+' = false

theorem induction_on_divided {p : List Char → Prop} (d : Char) (whole : ∀ cs, d ∉ cs → p cs)
    (divided : ∀ xs ys, d ∉ xs → p ys → p (xs ++ d :: ys)) (cs : List Char) : p cs := by
  induction hn : cs.length using Nat.strong_induction_on generalizing cs with
  | _ n ih =>
    subst hn
    by_cases h : d ∈ cs
    · obtain ⟨xs, ys, rfl, before⟩ := List.eq_append_cons_of_mem h
      refine divided xs ys before (ih ys.length ?_ ys rfl)
      simp only [List.length_append, List.length_cons]
      omega
    · exact whole cs h

theorem takeWhile_of_not_mem (h : d ∉ cs) : cs.takeWhile (· ≠ d) = cs := by
  simpa using @List.takeWhile_append_of_pos _ _ cs [] (decide_ne_of_not_mem h)

theorem dropWhile_of_not_mem (h : d ∉ cs) : cs.dropWhile (· ≠ d) = [] := by
  simpa using @List.dropWhile_append_of_pos _ _ cs [] (decide_ne_of_not_mem h)

theorem meaning_append_cons {b : UInt8} (hd : d.toNat < 128)
    (hb : spaced [UInt8.ofNat d.toNat] = [b]) (ascii : b.toNat < 128)
    (nondigit : hexValue? b = none) (other : b ≠ 0x25) (xs ys : List Char) :
    meaning (xs ++ d :: ys) = meaning xs ++ Char.ofNat b.toNat :: meaning ys := by
  have bytes : spaced (Utf8.encode (xs ++ d :: ys)) =
      spaced (Utf8.encode xs) ++ b :: spaced (Utf8.encode ys) := by
    rw [utf8_append, utf8_cons, utf8EncodeChar_of_lt hd, spaced_append, spaced_append, hb,
      List.singleton_append]
  rw [meaning, bytes, decode_append nondigit, decode_cons_of_ne other,
    Utf8.decodeLossy_append ascii]
  rfl

theorem meaning_append (h : d ∈ ['&', '=', '?']) (xs ys : List Char) :
    meaning (xs ++ d :: ys) = meaning xs ++ d :: meaning ys := by
  simp only [List.mem_cons, List.not_mem_nil, or_false] at h
  obtain rfl | rfl | rfl := h
  · exact meaning_append_cons (b := 0x26) (by decide) rfl (by decide) (by decide) (by decide) xs ys
  · exact meaning_append_cons (b := 0x3D) (by decide) rfl (by decide) (by decide) (by decide) xs ys
  · exact meaning_append_cons (b := 0x3F) (by decide) rfl (by decide) (by decide) (by decide) xs ys

theorem meaning_append_plus (xs ys : List Char) :
    meaning (xs ++ '+' :: ys) = meaning xs ++ ' ' :: meaning ys :=
  meaning_append_cons (b := 0x20) (by decide) rfl (by decide) (by decide) (by decide) xs ys

theorem meaning_of_not_mem (h : '+' ∉ cs) :
    meaning cs = Utf8.decodeLossy (Percent.decode (Utf8.encode cs)) := by
  have byte : 0x2B ∉ Utf8.encode cs := by
    intro hb
    obtain ⟨c, hc, hb⟩ := List.mem_flatMap.mp hb
    exact ascii_not_mem_utf8EncodeChar (d := '+') (by decide) (fun he => h (he ▸ hc)) hb
  rw [meaning, spaced_of_not_mem byte]

theorem meaning_encode (hs : SparingForm reserved) (cs : List Char) :
    meaning (Percent.encode reserved cs) = meaning cs := by
  have plain {xs : List Char} (h : '+' ∉ xs) :
      meaning (Percent.encode reserved xs) = meaning xs := by
    have encoded := not_mem_encode h (by decide) (by decide) reserved
    rw [meaning_of_not_mem encoded, meaning_of_not_mem h, decode_utf8_encode hs.toSparing]
  induction cs using induction_on_divided '+' with
  | whole cs h => exact plain h
  | divided xs ys before ih =>
    rw [encode_append_cons hs.plus, meaning_append_plus, meaning_append_plus, plain before, ih]

theorem length_utf8 (h : ∀ c ∈ cs, c.toNat < 128) : (Utf8.encode cs).length = cs.length := by
  induction cs with
  | nil => rfl
  | cons c cs ih =>
    rw [utf8_cons, utf8EncodeChar_of_lt (h c List.mem_cons_self), List.singleton_append,
      List.length_cons, List.length_cons, ih fun d hd => h d (List.mem_cons_of_mem _ hd)]

theorem length_meaning_le (h : ∀ c ∈ cs, c.toNat < 128) : (meaning cs).length ≤ cs.length := by
  calc (meaning cs).length
    _ ≤ (Percent.decode (spaced (Utf8.encode cs))).length := Utf8.length_decodeLossy_le _
    _ ≤ (spaced (Utf8.encode cs)).length := length_decode_le _
    _ = cs.length := by rw [spaced, List.length_map, length_utf8 h]

theorem meaning_eq_iff (h : ∀ c ∈ cs, c.toNat < 128) :
    meaning cs = cs ↔ '+' ∉ cs ∧ hasEscape cs = false := by
  constructor
  · intro same
    have plain : '+' ∉ cs := by
      intro hp
      obtain ⟨xs, ys, rfl, -⟩ := List.eq_append_cons_of_mem hp
      have front := @length_meaning_le xs fun c hc => h c (List.mem_append_left _ hc)
      have back := @length_meaning_le ys fun c hc =>
        h c (List.mem_append_right _ (List.mem_cons_of_mem _ hc))
      have length := congrArg List.length same
      rw [meaning_append_plus] at same length
      simp only [List.length_append, List.length_cons] at length
      have tail := (List.append_inj same (by omega)).2
      cases (List.cons.inj tail).1
    refine ⟨plain, Bool.eq_false_iff.mpr fun escape => ?_⟩
    have shorter := length_decode_utf8_lt escape
    have le := Utf8.length_decodeLossy_le (Percent.decode (Utf8.encode cs))
    rw [← meaning_of_not_mem plain, same] at le
    rw [length_utf8 h] at shorter
    omega
  · rintro ⟨plain, unescaped⟩
    rw [meaning_of_not_mem plain, decode_utf8_of_not_hasEscape unescaped, Utf8.decodeLossy_encode]

theorem decode_append_cons (xs ys : List Char) :
    decode (xs ++ '&' :: ys) = decode xs ++ decode ys := by
  have split : (xs ++ '&' :: ys).splitOn '&' = xs.splitOn '&' ++ ys.splitOn '&' :=
    List.splitOnP_append_cons xs ys (beq_self_eq_true '&')
  rw [decode, split, List.filter_append, List.map_append]
  rfl

theorem decode_of_not_mem (h : '&' ∉ cs) (some : cs ≠ []) : decode cs = [decodePair cs] := by
  have full : (!cs.isEmpty) = true := by simp [some]
  rw [decode, List.splitOn_eq_singleton h, List.filter_cons, if_pos full]
  rfl

theorem decodePair_of_not_mem (h : '=' ∉ cs) : decodePair cs = (decodeText cs, decodeText []) := by
  rw [decodePair, takeWhile_of_not_mem h, dropWhile_of_not_mem h]
  rfl

theorem decodePair_percent_encode (hs : SparingForm reserved) (cs : List Char) :
    decodePair (Percent.encode reserved cs) = decodePair cs := by
  have text (xs : List Char) : decodeText (Percent.encode reserved xs) = decodeText xs :=
    congrArg String.ofList (meaning_encode hs xs)
  have kept {xs : List Char} (h : '=' ∉ xs) : '=' ∉ Percent.encode reserved xs :=
    not_mem_encode h (by decide) (by decide) reserved
  by_cases h : '=' ∈ cs
  · obtain ⟨xs, ys, rfl, before⟩ := List.eq_append_cons_of_mem h
    rw [encode_append_cons hs.equals, decodePair_append (kept before), decodePair_append before,
      text, text]
  · rw [decodePair_of_not_mem (kept h), decodePair_of_not_mem h, text]

/-- Whether a text was encoded makes no difference to the form that is read from it. -/
theorem decode_percent_encode (hs : SparingForm reserved) (cs : List Char) :
    decode (Percent.encode reserved cs) = decode cs := by
  have part {xs : List Char} (h : '&' ∉ xs) : decode (Percent.encode reserved xs) = decode xs := by
    by_cases empty : xs = []
    · rw [empty]
      rfl
    · rw [decode_of_not_mem (not_mem_encode h (by decide) (by decide) reserved)
          (encode_ne_nil empty reserved),
        decode_of_not_mem h empty, decodePair_percent_encode hs]
  induction cs using induction_on_divided '&' with
  | whole cs h => exact part h
  | divided xs ys before ih =>
    rw [encode_append_cons hs.ampersand, decode_append_cons, decode_append_cons, part before, ih]

theorem decode_ne_nil (h : '=' ∈ cs) : decode cs ≠ [] := by
  have part {xs : List Char} (undivided : '&' ∉ xs) (hx : '=' ∈ xs) : decode xs ≠ [] := by
    rw [decode_of_not_mem undivided (List.ne_nil_of_mem hx)]
    exact List.cons_ne_nil _ _
  induction cs using induction_on_divided '&' with
  | whole cs undivided => exact part undivided h
  | divided xs ys before ih =>
    rw [decode_append_cons]
    intro empty
    obtain ⟨front, back⟩ := List.append_eq_nil_iff.mp empty
    obtain hx | hy : '=' ∈ xs ∨ '=' ∈ ys := by simpa using h
    · exact part before hx front
    · exact ih hy back

theorem length_le_of_mem_decode (ascii : ∀ c ∈ cs, c.toNat < 128) {pair : String × String}
    (h : pair ∈ decode cs) : pair.2.toList.length ≤ cs.length := by
  obtain ⟨part, hp, rfl⟩ := List.mem_map.mp h
  have sub : ((part.dropWhile (· ≠ '=')).drop 1).Sublist cs :=
    ((List.drop_sublist _ _).trans (List.dropWhile_sublist _)).trans
      (mem_splitOnP (List.mem_filter.mp hp).1).2
  have value : (decodePair part).2.toList = meaning ((part.dropWhile (· ≠ '=')).drop 1) := by
    rw [decodePair, decodeText_eq_meaning _, decodeText_eq_meaning _, String.toList_ofList]
  rw [value]
  exact (length_meaning_le fun c hc => ascii c (sub.subset hc)).trans sub.length_le

/-- No character of the text means something else in the form of a URL. -/
structure Bare (cs : List Char) : Prop where
  undivided : '&' ∉ cs
  unended : '#' ∉ cs
  unspaced : '+' ∉ cs
  unescaped : hasEscape cs = false

instance (cs : List Char) : Decidable (Bare cs) :=
  decidable_of_iff ('&' ∉ cs ∧ '#' ∉ cs ∧ '+' ∉ cs ∧ hasEscape cs = false)
    ⟨fun ⟨a, b, c, d⟩ => ⟨a, b, c, d⟩, fun ⟨a, b, c, d⟩ => ⟨a, b, c, d⟩⟩

theorem bare_of_not_mem (h : ∀ c ∈ cs, c ∉ ['&', '#', '+', '%']) : Bare cs where
  undivided hc := h _ hc (by decide)
  unended hc := h _ hc (by decide)
  unspaced hc := h _ hc (by decide)
  unescaped := hasEscape_of_not_mem fun hc => h _ hc (by decide)

variable {name text rest : List Char}

theorem decode_named (undivided : '&' ∉ name) (unnamed : '=' ∉ name) (h : '&' ∉ cs) :
    decode (name ++ '=' :: cs) = [(decodeText name, decodeText cs)] := by
  have single : '&' ∉ name ++ '=' :: cs := by simp [undivided, h]
  rw [decode_of_not_mem single (by simp), decodePair_append unnamed]

theorem meaning_of_decodeText (h : decodeText cs = String.ofList text) : meaning cs = text := by
  simpa [decodeText_eq_meaning] using congrArg String.toList h

/-- Up to the number sign that ends it, a form gives a bare text back, and no other. -/
theorem decode_bare_iff (undivided : '&' ∉ name) (unnamed : '=' ∉ name)
    (ascii : ∀ c ∈ text, c.toNat < 128) :
    decode (name ++ '=' :: text.takeWhile (· ≠ '#')) = [(decodeText name, String.ofList text)] ↔
      Bare text := by
  have inside : text.takeWhile (· ≠ '#') <+: text := List.takeWhile_prefix _
  have whole {part : List Char} (hp : part <+: text) (h : decodeText part = String.ofList text) :
      part = text := by
    have shorter := length_meaning_le fun c hc => ascii c (hp.subset hc)
    rw [meaning_of_decodeText h] at shorter
    exact hp.eq_of_length_le shorter
  constructor
  · intro h
    generalize ht : text.takeWhile (· ≠ '#') = taken at h inside
    have alone : '&' ∉ taken := by
      intro joined
      obtain ⟨xs, ys, rfl, before⟩ := List.eq_append_cons_of_mem joined
      rw [← List.cons_append, ← List.append_assoc, decode_append_cons,
        decode_named undivided unnamed before] at h
      have front := (List.prefix_append xs ('&' :: ys)).trans inside
      obtain rfl := whole front (Prod.mk.inj (List.cons.inj h).1).2
      have length := inside.length_le
      simp only [List.length_append, List.length_cons] at length
      omega
    rw [decode_named undivided unnamed alone] at h
    have same := (Prod.mk.inj (List.cons.inj h).1).2
    obtain rfl := whole inside same
    obtain ⟨unspaced, unescaped⟩ := (meaning_eq_iff ascii).mp (meaning_of_decodeText same)
    refine ⟨alone, fun hm => ?_, unspaced, unescaped⟩
    rw [← ht] at hm
    simpa using List.mem_takeWhile_imp hm
  · intro bare
    rw [takeWhile_of_not_mem bare.unended, decode_named undivided unnamed bare.undivided,
      decodeText_eq_meaning text, (meaning_eq_iff ascii).mpr ⟨bare.unspaced, bare.unescaped⟩]

/-- Nothing can be read in front of an equals sign and a text so that the two come to the text. -/
theorem meaning_behind_ne (h : '=' ∉ rest) (xs text : List Char) :
    xs ++ '=' :: meaning text ≠ text ++ rest := by
  induction hn : text.length using Nat.strong_induction_on generalizing xs text with
  | _ n ih =>
    subst hn
    intro same
    obtain ⟨zs, rfl, hz⟩ | ⟨zs, -, rfl⟩ := List.append_eq_append_iff.mp same
    · cases zs with
      | nil =>
        rw [List.nil_append] at hz
        exact h (hz ▸ List.mem_cons_self)
      | cons d zs =>
        -- The text begins with the front and the sign, so what it means does so too.
        obtain ⟨rfl, hm⟩ := List.cons.inj hz
        rw [meaning_append (by decide)] at hm
        refine ih zs.length ?_ (meaning xs) zs rfl hm
        simp only [List.length_append, List.length_cons]
        omega
    · exact h (List.mem_append_right _ List.mem_cons_self)

theorem decodePair_behind_ne (unnamed : '=' ∉ name) (h : '=' ∉ rest) (xs text : List Char) :
    decodePair (xs ++ '?' :: (name ++ '=' :: text)) ≠
      (decodeText name, String.ofList (text ++ rest)) := by
  intro same
  by_cases inside : '=' ∈ xs
  · obtain ⟨ws, ys, rfl, before⟩ := List.eq_append_cons_of_mem inside
    rw [List.append_assoc, List.cons_append, decodePair_append before] at same
    have value := meaning_of_decodeText (Prod.mk.inj same).2
    rw [← List.cons_append, ← List.append_assoc, meaning_append (by decide)] at value
    exact meaning_behind_ne h _ _ value
  · have before : '=' ∉ xs ++ '?' :: name := by simp [inside, unnamed]
    rw [← List.cons_append, ← List.append_assoc, decodePair_append before] at same
    have length := congrArg (·.toList.length) (Prod.mk.inj same).1
    simp only [decodeText_eq_meaning, String.toList_ofList, meaning_append (d := '?') (by decide),
      List.length_append, List.length_cons] at length
    omega

/-- From behind a question mark, a text is not read back whatever stands before it. -/
theorem decode_behind_ne (undivided : '&' ∉ name) (unnamed : '=' ∉ name) (xs text : List Char) :
    decode (xs ++ '?' :: (name ++ '=' :: text)) ≠ [(decodeText name, String.ofList text)] := by
  induction xs using induction_on_divided '&' with
  | divided ws ys _ ih =>
    intro same
    rw [List.append_assoc, List.cons_append, decode_append_cons] at same
    obtain ⟨-, same⟩ | ⟨-, empty⟩ := List.append_eq_singleton_iff.mp same
    · exact ih same
    · exact decode_ne_nil (by simp) empty
  | whole xs h =>
    -- The part with the name in it ends where the text is divided; what is left of the text must be
    -- empty parts.
    have single {ts : List Char} (ht : '&' ∉ ts) :
        decode (xs ++ '?' :: (name ++ '=' :: ts)) =
          [decodePair (xs ++ '?' :: (name ++ '=' :: ts))] :=
      decode_of_not_mem (by simp [h, undivided, ht]) (by simp)
    intro same
    by_cases divided : '&' ∈ text
    · obtain ⟨ts, es, rfl, before⟩ := List.eq_append_cons_of_mem divided
      have parts : xs ++ '?' :: (name ++ '=' :: (ts ++ '&' :: es)) =
          xs ++ '?' :: (name ++ '=' :: ts) ++ '&' :: es := by simp
      rw [parts, decode_append_cons, single before, List.singleton_append, List.cons.injEq] at same
      obtain ⟨pair, empty⟩ := same
      have unnamed' : '=' ∉ '&' :: es := by
        simpa using fun he => decode_ne_nil he empty
      exact decodePair_behind_ne unnamed unnamed' xs ts pair
    · rw [single divided] at same
      have pair := (List.cons.inj same).1
      exact decodePair_behind_ne unnamed List.not_mem_nil xs text (by rw [pair, List.append_nil])

end ForumDigest.Url.Form
