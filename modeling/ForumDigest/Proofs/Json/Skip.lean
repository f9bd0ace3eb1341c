import ForumDigest.Json.Skip
import ForumDigest.Proofs.Json.Lexical

namespace ForumDigest.Json

def resume (frames : List Frame) (rest : List Char) : Except Error (List Char) :=
  if frames.isEmpty then .ok rest else skipFrom frames .comma rest

variable {frames : List Frame} {expected next : Expect} {c : Char} {cs rest : List Char}

theorem skipFrom_goes {frames' : List Frame} (h : step frames expected c = .goes frames' next)
    (hx : expected.startsHex = false) :
    skipFrom frames expected (c :: cs) = skipFrom frames' next cs := by
  simp only [skipFrom, hx, h, Bool.false_and, Bool.false_eq_true, if_false]

theorem skipFrom_closed {outer : List Frame} (h : step frames expected c = Step.closed outer)
    (hx : expected.startsHex = false) :
    skipFrom frames expected (c :: cs) = resume outer cs := by
  simp only [skipFrom, hx, h, Bool.false_and, Bool.false_eq_true, if_false]
  cases outer <;> rfl

theorem skipFrom_stays (h : ∀ c ∈ cs, step frames expected c = .goes frames expected)
    (hx : expected.startsHex = false) :
    skipFrom frames expected (cs ++ rest) = skipFrom frames expected rest := by
  induction cs with
  | nil => rfl
  | cons c cs ih =>
    exact (skipFrom_goes (h c List.mem_cons_self) hx).trans
      (ih fun d hd => h d (List.mem_cons_of_mem c hd))

theorem skipFrom_blank (hb : Blank cs)
    (he : expected ∈ [.value, .valueOrEnd, .name, .nameOrEnd, .colon, .comma]) :
    skipFrom frames expected (cs ++ rest) = skipFrom frames expected rest := by
  simp only [List.mem_cons, List.not_mem_nil, or_false] at he
  obtain rfl | rfl | rfl | rfl | rfl | rfl := he
  all_goals
    refine skipFrom_stays (fun c hc => ?_) rfl
    simp [step, stepComma, hb c hc]

theorem isSome_hexValue?_of_unit? {a b c d : Char} (h : (unit? a b c d).isSome) :
    (hexValue? a).isSome ∧ (hexValue? b).isSome ∧ (hexValue? c).isSome ∧ (hexValue? d).isSome := by
  obtain ⟨u, hu⟩ := Option.isSome_iff_exists.mp h
  simp only [unit?, Option.bind_eq_bind, Option.bind_eq_some_iff] at hu
  obtain ⟨_, ha, _, hb, _, hc, _, hd, -⟩ := hu
  simp [ha, hb, hc, hd]

theorem skipFrom_unit {isName : Bool} {a b c d : Char} (h : (unit? a b c d).isSome) :
    skipFrom frames (.hex 4 isName) (a :: b :: c :: d :: cs) = skipFrom frames (.text isName) cs := by
  obtain ⟨ha, hb, hc, hd⟩ := isSome_hexValue?_of_unit? h
  have long : isShort (a :: b :: c :: d :: cs) = false := by
    have := a.utf8Size_pos
    have := b.utf8Size_pos
    have := c.utf8Size_pos
    have := d.utf8Size_pos
    simp [isShort]
    omega
  simp [skipFrom, step, Expect.startsHex, long, ha, hb, hc, hd]

theorem skipFrom_text {isName : Bool} (h : IsText cs) :
    skipFrom frames (.text isName) (cs ++ '"' :: rest) =
      if isName then skipFrom frames .colon rest else resume frames rest := by
  -- The induction follows the text: behind each escape the state is that of the text again.
  induction h with
  | nil =>
    cases isName with
    | true => exact skipFrom_goes rfl rfl
    | false => exact skipFrom_closed rfl rfl
  | @plain c cs quote backslash control _ ih =>
    have above : ¬ c.toNat < 0x20 := by omega
    refine Eq.trans (skipFrom_goes ?_ rfl) ih
    simp [step, quote, backslash, above]
  | @escape c cs known _ ih =>
    have apart : c ≠ 'u' := by
      rintro rfl
      cases known
    have second : skipFrom frames (.escape isName) (c :: (cs ++ '"' :: rest)) =
        skipFrom frames (.text isName) (cs ++ '"' :: rest) :=
      skipFrom_goes (by simp [step, apart, known]) rfl
    exact ((skipFrom_goes rfl rfl).trans second).trans ih
  | @unit a b c d cs digits _ ih =>
    have second : skipFrom frames (.escape isName) ('u' :: a :: b :: c :: d :: (cs ++ '"' :: rest)) =
        skipFrom frames (.hex 4 isName) (a :: b :: c :: d :: (cs ++ '"' :: rest)) :=
      skipFrom_goes rfl rfl
    exact (((skipFrom_goes rfl rfl).trans second).trans (skipFrom_unit digits)).trans ih

theorem step_digit (hc : c.isDigit = true)
    (he : expected ∈ [.whole false, .decimals, .exponentDigits]) :
    step frames expected c = .goes frames expected := by
  simp only [List.mem_cons, List.not_mem_nil, or_false] at he
  obtain rfl | rfl | rfl := he <;> simp [step, hc]

theorem skipFrom_ended (h : Stops rest)
    (he : expected ∈ [.whole true, .whole false, .decimals, .exponentDigits]) :
    skipFrom frames expected rest = resume frames rest := by
  simp only [List.mem_cons, List.not_mem_nil, or_false] at he
  cases rest with
  | nil =>
    obtain rfl | rfl | rfl | rfl := he
    all_goals cases frames <;> rfl
  | cons c rest =>
    have digit : c.isDigit = false := h.undigited c rfl
    have point : c ≠ '.' := fun hc => h.not_point rest (hc ▸ rfl)
    have letter : c ≠ 'e' ∧ c ≠ 'E' := by
      have := h.not_startsExponent
      constructor <;> (rintro rfl; cases this)
    have after : step frames expected c = stepAfterNumber frames c := by
      obtain rfl | rfl | rfl | rfl := he <;> simp [step, digit, point, letter]
    have hx : expected.startsHex = false := by
      obtain rfl | rfl | rfl | rfl := he <;> rfl
    -- Without frames the value is all that was asked for; inside one, the character that ends the
    -- number is looked at a second time, as what stands behind a value.
    cases frames with
    | nil =>
      simp [skipFrom, hx, after, stepAfterNumber, resume]
    | cons frame frames =>
      have comma : step (frame :: frames) .comma c = stepComma (frame :: frames) c := rfl
      have unhex : Expect.comma.startsHex = false := rfl
      simp [skipFrom, hx, unhex, after, comma, stepAfterNumber, resume]

theorem skipFrom_exponent (h : IsExponent cs) (hr : Stops rest)
    (he : expected ∈ [.whole true, .whole false, .decimals]) :
    skipFrom frames expected (cs ++ rest) = resume frames rest := by
  cases h with
  | none => exact skipFrom_ended hr (by simp at he ⊢; tauto)
  | @digits letter sign ds hl hs hd =>
    have first : skipFrom frames expected (letter :: (sign ++ ds) ++ rest) =
        skipFrom frames .exponent (sign ++ (ds ++ rest)) := by
      simp only [List.mem_cons, List.not_mem_nil, or_false] at he
      rw [List.cons_append, List.append_assoc]
      obtain rfl | rfl | rfl := he <;> obtain rfl | rfl := hl <;> exact skipFrom_goes rfl rfl
    obtain ⟨d, ds, rfl⟩ := List.exists_cons_of_ne_nil hd.nonempty
    have digit := hd.digits d List.mem_cons_self
    have digits := fun c hc => hd.digits c (List.mem_cons_of_mem d hc)
    have last : skipFrom frames .exponentDigits (ds ++ rest) = resume frames rest :=
      (skipFrom_stays (fun c hc => step_digit (digits c hc) (by simp)) rfl).trans
        (skipFrom_ended hr (by simp))
    have apart : d ≠ '+' ∧ d ≠ '-' := by
      constructor <;> (rintro rfl; revert digit; decide)
    rw [first, ← last]
    simp only [List.mem_cons, List.not_mem_nil, or_false] at hs
    obtain rfl | rfl | rfl := hs
    · exact skipFrom_goes (by simp [step, apart, digit]) rfl
    · exact (skipFrom_goes rfl rfl).trans (skipFrom_goes (by simp [step, digit]) rfl)
    · exact (skipFrom_goes rfl rfl).trans (skipFrom_goes (by simp [step, digit]) rfl)

theorem skipFrom_fraction {fraction exponent : List Char} (hf : IsFraction fraction)
    (he : IsExponent exponent) (hr : Stops rest) (zero : Bool) :
    skipFrom frames (.whole zero) (fraction ++ (exponent ++ rest)) = resume frames rest := by
  cases hf with
  | none => exact skipFrom_exponent he hr (by cases zero <;> simp)
  | @digits ds hd =>
    obtain ⟨d, ds, rfl⟩ := List.exists_cons_of_ne_nil hd.nonempty
    have digits := fun c hc => hd.digits c (List.mem_cons_of_mem d hc)
    have last : skipFrom frames .decimals (ds ++ (exponent ++ rest)) = resume frames rest :=
      (skipFrom_stays (fun c hc => step_digit (digits c hc) (by simp)) rfl).trans
        (skipFrom_exponent he hr (by simp))
    rw [← last]
    refine (skipFrom_goes rfl rfl).trans ?_
    exact skipFrom_goes (by simp [step, hd.digits d List.mem_cons_self]) rfl

theorem skipFrom_whole {whole fraction exponent : List Char} (hw : IsWhole whole)
    (hf : IsFraction fraction) (he : IsExponent exponent) (hr : Stops rest)
    (hx : expected ∈ [.value, .digit]) :
    skipFrom frames expected (whole ++ (fraction ++ (exponent ++ rest))) = resume frames rest := by
  obtain ⟨d, ds, rfl⟩ := List.exists_cons_of_ne_nil hw.nonempty
  have digit := hw.digits d List.mem_cons_self
  simp only [List.mem_cons, List.not_mem_nil, or_false] at hx
  by_cases hd : d = '0'
  · subst hd
    obtain rfl := hw.unpadded ds rfl
    rw [← skipFrom_fraction hf he hr true]
    obtain rfl | rfl := hx <;> exact skipFrom_goes rfl rfl
  · have digits := fun c hc => hw.digits c (List.mem_cons_of_mem d hc)
    have last : skipFrom frames (.whole false) (ds ++ (fraction ++ (exponent ++ rest))) =
        resume frames rest :=
      (skipFrom_stays (fun c hc => step_digit (digits c hc) (by simp)) rfl).trans
        (skipFrom_fraction hf he hr false)
    rw [← last]
    have start : StartsValue d := .inr (by simp [startsNumber, digit])
    have letters : d ≠ '"' ∧ d ≠ '[' ∧ d ≠ '\x7b' ∧ d ≠ 'n' ∧ d ≠ 't' ∧ d ≠ 'f' ∧ d ≠ '-' := by
      refine ⟨?_, ?_, ?_, ?_, ?_, ?_, ?_⟩ <;> (rintro rfl; revert digit; decide)
    obtain rfl | rfl := hx
    · exact skipFrom_goes (by simp [step, start.not_isSpace, stepValue, letters, hd, digit]) rfl
    · exact skipFrom_goes (by simp [step, hd, digit]) rfl

theorem skipFrom_number (h : IsNumeral cs) (hr : Stops rest) :
    skipFrom frames .value (cs ++ rest) = resume frames rest := by
  obtain @⟨sign, whole, fraction, exponent, hs, hw, hf, he⟩ := h
  simp only [List.mem_cons, List.not_mem_nil, or_false] at hs
  simp only [List.append_assoc]
  obtain rfl | rfl := hs
  · exact skipFrom_whole hw hf he hr (by simp)
  · exact (skipFrom_goes rfl rfl).trans (skipFrom_whole hw hf he hr (by simp))

theorem skipFrom_valueOrEnd {val : List Char} (h : IsValue val) :
    skipFrom frames .valueOrEnd (val ++ rest) = skipFrom frames .value (val ++ rest) := by
  obtain ⟨c, cs, rfl, start⟩ := h.head
  have apart := start.ne (d := ']') (by decide) (by decide)
  have same : step frames .valueOrEnd c = step frames .value c := by
    simp [step, start.not_isSpace, apart]
  simp only [List.cons_append, skipFrom, same]
  rfl

def Skips (val : List Char) : Prop :=
  ∀ frames rest, Stops rest → skipFrom frames .value (val ++ rest) = resume frames rest

theorem skipFrom_element {e : Element} (apart : e.Apart) (value : Skips e.value) {frame : Frame}
    (stop : Stops (e.after ++ rest)) :
    skipFrom (frame :: frames) .value (e.text ++ rest) = skipFrom (frame :: frames) .comma rest := by
  rw [Element.text, List.append_assoc, List.append_assoc, skipFrom_blank apart.before (by simp),
    value _ _ stop]
  exact skipFrom_blank apart.after (by simp)

theorem skipFrom_elements {es : List Element} (apart : ∀ e ∈ es, e.Apart)
    (values : ∀ e ∈ es, Skips e.value) (frames : List Frame) (rest : List Char) :
    skipFrom (.array :: frames) .comma (elementsTail es rest) = resume frames rest := by
  induction es with
  | nil => exact skipFrom_closed rfl rfl
  | cons e es ih =>
    have he := apart e List.mem_cons_self
    rw [← ih (fun d hd => apart d (List.mem_cons_of_mem e hd))
      fun d hd => values d (List.mem_cons_of_mem e hd), elementsTail_cons]
    exact (skipFrom_goes rfl rfl).trans
      (skipFrom_element he (values e List.mem_cons_self) (he.stops_elementsTail es rest))

theorem skips_array {blank : List Char} {es : List Element} (hb : Blank blank)
    (apart : ∀ e ∈ es, e.Apart) (values : ∀ e ∈ es, IsValue e.value)
    (skips : ∀ e ∈ es, Skips e.value) : Skips (arrayText blank es) := by
  intro frames rest _
  have opened : skipFrom frames .value (arrayText blank es ++ rest) =
      skipFrom (.array :: frames) .valueOrEnd (row (es.map Element.text) ++ ']' :: rest) := by
    rw [arrayText_append]
    exact (skipFrom_goes rfl rfl).trans (skipFrom_blank hb (by simp))
  rw [opened]
  cases es with
  | nil => exact skipFrom_closed rfl rfl
  | cons e es =>
    have he := apart e List.mem_cons_self
    rw [row_elements, ← skipFrom_elements (fun d hd => apart d (List.mem_cons_of_mem e hd))
      (fun d hd => skips d (List.mem_cons_of_mem e hd)) frames rest]
    refine Eq.trans ?_
      (skipFrom_element he (skips e List.mem_cons_self) (he.stops_elementsTail es rest))
    rw [Element.text, List.append_assoc, List.append_assoc, skipFrom_blank he.before (by simp),
      skipFrom_blank he.before (by simp)]
    exact skipFrom_valueOrEnd (values e List.mem_cons_self)

theorem skipFrom_member {m : Member} (apart : m.Apart) (value : Skips m.value.value) {frame : Frame}
    (hx : expected ∈ [.name, .nameOrEnd]) (stop : Stops (m.value.after ++ rest)) :
    skipFrom (frame :: frames) expected (m.text ++ rest) =
      skipFrom (frame :: frames) .comma rest := by
  have quote : step (frame :: frames) expected '"' = .goes (frame :: frames) (.text true) := by
    simp only [List.mem_cons, List.not_mem_nil, or_false] at hx
    obtain rfl | rfl := hx <;> rfl
  have unhex : expected.startsHex = false := by
    simp only [List.mem_cons, List.not_mem_nil, or_false] at hx
    obtain rfl | rfl := hx <;> rfl
  simp only [Member.text, List.append_assoc, List.cons_append]
  rw [skipFrom_blank apart.before (by simp at hx ⊢; tauto), skipFrom_goes quote unhex,
    skipFrom_text apart.name, if_pos rfl, skipFrom_blank apart.between (by simp)]
  exact (skipFrom_goes rfl rfl).trans (skipFrom_element apart.value value stop)

theorem skipFrom_members {ms : List Member} (apart : ∀ m ∈ ms, m.Apart)
    (values : ∀ m ∈ ms, Skips m.value.value) (frames : List Frame) (rest : List Char) :
    skipFrom (.object :: frames) .comma (membersTail ms rest) = resume frames rest := by
  induction ms with
  | nil => exact skipFrom_closed rfl rfl
  | cons m ms ih =>
    have hm := apart m List.mem_cons_self
    rw [← ih (fun d hd => apart d (List.mem_cons_of_mem m hd))
      fun d hd => values d (List.mem_cons_of_mem m hd), membersTail_cons]
    exact (skipFrom_goes rfl rfl).trans (skipFrom_member hm (values m List.mem_cons_self) (by simp)
      (hm.value.stops_membersTail ms rest))

theorem skips_object {blank : List Char} {ms : List Member} (hb : Blank blank)
    (apart : ∀ m ∈ ms, m.Apart) (values : ∀ m ∈ ms, Skips m.value.value) :
    Skips (objectText blank ms) := by
  intro frames rest _
  have opened : skipFrom frames .value (objectText blank ms ++ rest) =
      skipFrom (.object :: frames) .nameOrEnd (row (ms.map Member.text) ++ '\x7d' :: rest) := by
    rw [objectText_append]
    exact (skipFrom_goes rfl rfl).trans (skipFrom_blank hb (by simp))
  rw [opened]
  cases ms with
  | nil => exact skipFrom_closed rfl rfl
  | cons m ms =>
    have hm := apart m List.mem_cons_self
    rw [row_members, ← skipFrom_members (fun d hd => apart d (List.mem_cons_of_mem m hd))
      (fun d hd => values d (List.mem_cons_of_mem m hd)) frames rest]
    exact skipFrom_member hm (values m List.mem_cons_self) (by simp)
      (hm.value.stops_membersTail ms rest)

theorem IsValue.skips {val : List Char} (h : IsValue val) : Skips val := by
  induction h with
  | null | true | false =>
    intro frames rest _
    cases frames <;> rfl
  | number h => exact fun _ _ hr => skipFrom_number h hr
  | text h =>
    intro frames rest _
    rw [List.cons_append, List.append_assoc, List.singleton_append]
    exact (skipFrom_goes rfl rfl).trans (skipFrom_text h)
  -- The hypotheses skip the elements and members inside one frame more.
  | array hb apart values ih => exact skips_array hb apart values ih
  | object hb apart _ ih => exact skips_object hb apart ih

theorem skip_value {b val : List Char} (hb : Blank b) (h : IsValue val) (hr : Stops rest) :
    skip (b ++ (val ++ rest)) = .ok rest := by
  rw [skip, skipFrom_blank hb (by simp), h.skips _ _ hr]
  rfl

end ForumDigest.Json
