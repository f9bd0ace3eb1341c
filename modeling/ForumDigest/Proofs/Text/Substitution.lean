import ForumDigest.Text.Substitution
import Mathlib.Data.List.Infix

namespace ForumDigest.Text

structure Rule where
  pattern : List Char
  value : List Char

def first? (rules : List Rule) (cs : List Char) : Option Rule :=
  rules.find? (·.pattern.isPrefixOf cs)

/-- One pass from left to right; the first `skip` characters belong to a pattern whose value was
already put in. -/
def fillFrom (rules : List Rule) : (skip : Nat) → List Char → List Char
  | _, [] => []
  | skip + 1, _ :: cs => fillFrom rules skip cs
  | 0, c :: cs =>
    match first? rules (c :: cs) with
    | some rule => rule.value ++ fillFrom rules (rule.pattern.length - 1) cs
    | none => c :: fillFrom rules 0 cs

/-- Puts in the values where their patterns stand, and copies the rest. -/
def fillAll (rules : List Rule) (cs : List Char) : List Char := fillFrom rules 0 cs

/-- What a pass makes of a text, step by step. -/
inductive Fills (rules : List Rule) : List Char → List Char → Prop where
  | nil : Fills rules [] []
  | put {rule : Rule} {cs out : List Char}
      (found : first? rules (rule.pattern ++ cs) = some rule) (rest : Fills rules cs out) :
      Fills rules (rule.pattern ++ cs) (rule.value ++ out)
  | copy {c : Char} {cs out : List Char} (unfound : first? rules (c :: cs) = none)
      (rest : Fills rules cs out) : Fills rules (c :: cs) (c :: out)

/-- A name in braces. -/
def IsMark (cs : List Char) : Prop :=
  ∃ name : List Char, cs = '\x7b' :: name ++ ['\x7d'] ∧ '\x7b' ∉ name ∧ '\x7d' ∉ name

/-- Between a beginning and an end of the pattern, neither of them all of it, the text makes the
pattern stand. -/
def Completes (pattern text : List Char) : Prop :=
  ∃ front ∈ pattern.inits, ∃ back ∈ pattern.tails, front ≠ pattern ∧ back ≠ pattern ∧
    pattern <:+: front ++ text ++ back

instance (pattern text : List Char) : Decidable (Completes pattern text) :=
  inferInstanceAs (Decidable (∃ front ∈ pattern.inits, ∃ back ∈ pattern.tails, _))

variable {rules : List Rule} {rule : Rule} {pattern value cs out xs ys : List Char} {c : Char}

theorem prefix_of_first? (h : first? rules cs = some rule) : rule.pattern <+: cs :=
  List.isPrefixOf_iff_prefix.mp (List.find?_some (p := fun r : Rule => r.pattern.isPrefixOf cs) h)

theorem first?_eq_none_iff : first? rules cs = none ↔ ∀ rule ∈ rules, ¬ rule.pattern <+: cs := by
  simp only [first?, List.find?_eq_none, List.isPrefixOf_iff_prefix]

theorem first?_append (rules others : List Rule) (cs : List Char) :
    first? (rules ++ others) cs = (first? rules cs).or (first? others cs) :=
  List.find?_append

@[simp]
theorem fillAll_nil (rules : List Rule) : fillAll rules [] = [] := rfl

theorem fillFrom_eq (rules : List Rule) (skip : Nat) (cs : List Char) :
    fillFrom rules skip cs = fillAll rules (cs.drop skip) := by
  induction cs generalizing skip with
  | nil => cases skip <;> rfl
  | cons c cs ih =>
    cases skip with
    | zero => rfl
    | succ skip => exact ih skip

theorem fillAll_of_found (rule : Rule) (nonempty : rule.pattern ≠ [])
    (found : first? rules (rule.pattern ++ cs) = some rule) :
    fillAll rules (rule.pattern ++ cs) = rule.value ++ fillAll rules cs := by
  obtain ⟨c, tail, hp⟩ := List.exists_cons_of_ne_nil nonempty
  rw [hp, List.cons_append] at found ⊢
  rw [fillAll, fillFrom, found]
  dsimp only
  rw [fillFrom_eq, hp, List.length_cons, Nat.add_sub_cancel, List.drop_left]

theorem fillAll_of_unfound (unfound : first? rules (c :: cs) = none) :
    fillAll rules (c :: cs) = c :: fillAll rules cs := by
  rw [fillAll, fillFrom, unfound]
  rfl

theorem fills_fillAll (nonempty : ∀ rule ∈ rules, rule.pattern ≠ []) (cs : List Char) :
    Fills rules cs (fillAll rules cs) := by
  -- A pattern is skipped as a whole, so the induction is on the length.
  induction hn : cs.length using Nat.strong_induction_on generalizing cs with
  | _ n ih =>
    subst hn
    cases cs with
    | nil => exact .nil
    | cons c cs =>
      cases hf : first? rules (c :: cs) with
      | none =>
        rw [fillAll_of_unfound hf]
        exact .copy hf (ih cs.length (Nat.lt_succ_self _) cs rfl)
      | some rule =>
        have some := nonempty rule (List.mem_of_find?_eq_some hf)
        obtain ⟨rest, hr⟩ := prefix_of_first? hf
        have shorter : rest.length < (c :: cs).length := by
          rw [← hr, List.length_append]
          have := List.length_pos_iff.mpr some
          omega
        rw [← hr] at hf ⊢
        rw [fillAll_of_found rule some hf]
        exact .put hf (ih rest.length shorter rest rfl)

theorem fillAll_append (h : ∀ front back, xs = front ++ back → back ≠ [] →
    first? rules (back ++ ys) = none) : fillAll rules (xs ++ ys) = xs ++ fillAll rules ys := by
  induction xs with
  | nil => rfl
  | cons c xs ih =>
    have unfound : first? rules (c :: (xs ++ ys)) = none := h [] (c :: xs) rfl (by simp)
    rw [List.cons_append, fillAll_of_unfound unfound, ih, List.cons_append]
    rintro front back rfl some
    exact h (c :: front) back rfl some

theorem substitute_eq (pattern value cs : List Char) :
    substitute pattern value cs = fillAll [⟨pattern, value⟩] cs := by
  have same (skip : Nat) : substituteFrom pattern value skip cs =
      fillFrom [⟨pattern, value⟩] skip cs := by
    induction cs generalizing skip with
    | nil => cases skip <;> rfl
    | cons c cs ih =>
      cases skip with
      | succ skip => exact ih skip
      | zero =>
        rw [substituteFrom, fillFrom, first?, List.find?_singleton]
        split
        · exact congrArg (value ++ ·) (ih _)
        · exact congrArg (c :: ·) (ih 0)
  exact same 0

theorem fills_substitute (h : pattern ≠ []) (value cs : List Char) :
    Fills [⟨pattern, value⟩] cs (substitute pattern value cs) := by
  rw [substitute_eq]
  exact fills_fillAll (by simpa using h) cs

theorem first?_single (pattern value ys : List Char) :
    first? [⟨pattern, value⟩] (pattern ++ ys) = some ⟨pattern, value⟩ := by
  simp [first?, List.isPrefixOf_iff_prefix]

theorem eq_of_first?_single (h : first? [⟨pattern, value⟩] cs = some rule) :
    rule = ⟨pattern, value⟩ :=
  List.mem_singleton.mp (List.mem_of_find?_eq_some h)

theorem Fills.mem (fills : Fills rules cs out) (h : c ∈ out) :
    c ∈ cs ∨ ∃ rule ∈ rules, c ∈ rule.value := by
  induction fills with
  | nil => exact .inl h
  | put found _ ih =>
    obtain value | rest := List.mem_append.mp h
    · exact .inr ⟨_, List.mem_of_find?_eq_some found, value⟩
    · exact (ih rest).imp_left (List.mem_append_right _)
  | copy _ _ ih =>
    obtain rfl | rest := List.mem_cons.mp h
    · exact .inl List.mem_cons_self
    · exact (ih rest).imp_left (List.mem_cons_of_mem _)

theorem substitute_of_not_infix (h : ¬ pattern <:+: cs) : substitute pattern value cs = cs := by
  have absent (front back : List Char) (hc : cs = front ++ back) (_ : back ≠ []) :
      first? [⟨pattern, value⟩] (back ++ []) = none := by
    refine first?_eq_none_iff.mpr fun rule hr begins => ?_
    obtain rfl := List.mem_singleton.mp hr
    rw [List.append_nil] at begins
    exact h (hc ▸ begins.isInfix.trans (List.suffix_append front back).isInfix)
  rw [substitute_eq]
  simpa using fillAll_append absent

theorem substitute_self (h : pattern ≠ []) (cs : List Char) :
    substitute pattern pattern cs = cs := by
  have fills := fills_substitute h pattern cs
  generalize substitute pattern pattern cs = out at fills ⊢
  induction fills with
  | nil => rfl
  | put found _ ih => rw [eq_of_first?_single found, ih]
  | copy _ _ ih => rw [ih]

theorem exists_length_substitute (h : pattern ≠ []) (value cs : List Char) :
    ∃ n, (substitute pattern value cs).length + n * pattern.length =
      cs.length + n * value.length ∧ (pattern <:+: cs → 0 < n) := by
  have fills := fills_substitute h value cs
  generalize substitute pattern value cs = out at fills ⊢
  induction fills with
  | nil => exact ⟨0, by simp, fun inside => absurd (List.infix_nil.mp inside) h⟩
  | put found _ ih =>
    obtain rfl := eq_of_first?_single found
    obtain ⟨n, length, -⟩ := ih
    refine ⟨n + 1, ?_, fun _ => Nat.succ_pos n⟩
    simp only [List.length_append, Nat.succ_mul]
    omega
  | copy unfound _ ih =>
    obtain ⟨n, length, counted⟩ := ih
    refine ⟨n, ?_, fun inside => ?_⟩
    · simp only [List.length_cons]
      omega
    · have absent : ¬ pattern <+: _ := first?_eq_none_iff.mp unfound _ (List.mem_singleton_self _)
      exact counted ((List.infix_cons_iff.mp inside).resolve_left absent)

theorem Fills.eq_of_unchanged (fills : Fills [⟨pattern, value⟩] cs out) (h : pattern ≠ [])
    (equal : value.length = pattern.length) (inside : pattern <:+: cs) (unchanged : out = cs) :
    value = pattern := by
  induction fills with
  | nil => exact absurd (List.infix_nil.mp inside) h
  | put found =>
    obtain rfl := eq_of_first?_single found
    exact (List.append_inj unchanged equal).1
  | copy unfound _ ih =>
    have absent : ¬ pattern <+: _ := first?_eq_none_iff.mp unfound _ (List.mem_singleton_self _)
    exact ih ((List.infix_cons_iff.mp inside).resolve_left absent) (List.cons.inj unchanged).2

/-- Where the pattern stands, a replacement that changes nothing puts in the pattern. -/
theorem eq_of_substitute_eq (h : pattern ≠ []) (inside : pattern <:+: cs)
    (unchanged : substitute pattern value cs = cs) : value = pattern := by
  obtain ⟨n, length, counted⟩ := exists_length_substitute h value cs
  rw [unchanged] at length
  have equal := Nat.eq_of_mul_eq_mul_left (counted inside) (Nat.add_left_cancel length)
  exact (fills_substitute h value cs).eq_of_unchanged h equal.symm inside unchanged

namespace IsMark

variable {mark other front back : List Char}

theorem exists_tail (h : IsMark mark) : ∃ tail, mark = '\x7b' :: tail ∧ '\x7b' ∉ tail := by
  obtain ⟨name, rfl, unopened, -⟩ := h
  refine ⟨name ++ ['\x7d'], rfl, ?_⟩
  simp [unopened]

theorem ne_nil (h : IsMark mark) : mark ≠ [] := by
  obtain ⟨tail, rfl, -⟩ := h.exists_tail
  exact List.cons_ne_nil _ _

theorem closes (h : IsMark mark) : '\x7d' ∈ mark := by
  obtain ⟨name, rfl, -⟩ := h
  simp

theorem unclosed (h : IsMark mark) (begins : front <+: mark) (partly : front ≠ mark) :
    '\x7d' ∉ front := by
  obtain ⟨name, rfl, -, unclosed⟩ := h
  have inner := (List.prefix_concat_iff.mp begins).resolve_left partly
  intro inside
  obtain brace | inside := List.mem_cons.mp (inner.subset inside)
  · cases brace
  · exact unclosed inside

theorem unopened (h : IsMark mark) (ends : back <:+ mark) (partly : back ≠ mark) :
    '\x7b' ∉ back := by
  obtain ⟨tail, rfl, unopened⟩ := h.exists_tail
  exact fun inside => unopened (((List.suffix_cons_iff.mp ends).resolve_left partly).subset inside)

theorem eq_of_begins (h : IsMark mark) (h' : IsMark other) (begins : mark <+: cs)
    (begins' : other <+: cs) : mark = other := by
  by_contra different
  obtain front | front := List.prefix_or_prefix_of_prefix begins begins'
  · exact h'.unclosed front different h.closes
  · exact h.unclosed front (Ne.symm different) h'.closes

end IsMark

theorem prefix_append_iff : cs <+: xs ++ ys ↔ cs <+: xs ∨ ∃ zs, cs = xs ++ zs ∧ zs <+: ys := by
  constructor
  · rintro ⟨rest, h⟩
    obtain ⟨zs, rfl, -⟩ | ⟨zs, rfl, rfl⟩ := List.append_eq_append_iff.mp h
    · exact .inl (List.prefix_append _ _)
    · exact .inr ⟨zs, rfl, List.prefix_append _ _⟩
  · rintro (h | ⟨zs, rfl, h⟩)
    · exact h.trans (List.prefix_append xs ys)
    · exact (List.prefix_append_right_inj xs).mpr h

theorem first?_append_cons (apart : ∀ rule ∈ rules, c ∉ rule.pattern) (xs ys : List Char) :
    first? rules (xs ++ c :: ys) = first? rules xs := by
  induction rules with
  | nil => rfl
  | cons rule rules ih =>
    obtain ⟨outside, others⟩ := List.forall_mem_cons.mp apart
    have same : rule.pattern.isPrefixOf (xs ++ c :: ys) = rule.pattern.isPrefixOf xs := by
      rw [Bool.eq_iff_iff, List.isPrefixOf_iff_prefix, List.isPrefixOf_iff_prefix,
        prefix_append_iff]
      refine ⟨?_, .inl⟩
      rintro (inside | ⟨_ | ⟨d, zs⟩, hp, begins⟩)
      · exact inside
      · exact hp ▸ (List.append_nil xs).symm ▸ List.prefix_rfl
      · obtain rfl := (List.cons_prefix_cons.mp begins).1
        exact absurd (hp ▸ List.mem_append_right xs List.mem_cons_self) outside
    rw [first?, List.find?_cons, same, first?, List.find?_cons]
    split
    · rfl
    · exact ih others

theorem fillAll_append_cons (nonempty : ∀ rule ∈ rules, rule.pattern ≠ [])
    (apart : ∀ rule ∈ rules, c ∉ rule.pattern) (xs ys : List Char) :
    fillAll rules (xs ++ c :: ys) = fillAll rules xs ++ c :: fillAll rules ys := by
  have fills := fills_fillAll nonempty xs
  generalize fillAll rules xs = out at fills ⊢
  induction fills with
  | nil =>
    refine fillAll_of_unfound (first?_append_cons apart [] ys |>.trans ?_)
    exact first?_eq_none_iff.mpr fun rule hr begins => nonempty rule hr (List.prefix_nil.mp begins)
  | @put rule cs out found _ ih =>
    have found' : first? rules (rule.pattern ++ (cs ++ c :: ys)) = some rule := by
      rw [← List.append_assoc, first?_append_cons apart, found]
    have some := nonempty rule (List.mem_of_find?_eq_some found)
    rw [List.append_assoc, fillAll_of_found rule some found', ih, List.append_assoc]
  | @copy d cs out unfound _ ih =>
    have unfound' : first? rules (d :: (cs ++ c :: ys)) = none := by
      rw [← List.cons_append, first?_append_cons apart, unfound]
    rw [List.cons_append, fillAll_of_unfound unfound', ih, List.cons_append]

theorem first?_of_unopened (marks : ∀ rule ∈ rules, IsMark rule.pattern) (h : '\x7b' ∉ xs)
    (some : xs ≠ []) (ys : List Char) : first? rules (xs ++ ys) = none := by
  refine first?_eq_none_iff.mpr fun rule hr begins => ?_
  obtain ⟨tail, hp, -⟩ := (marks rule hr).exists_tail
  obtain ⟨c, rest, rfl⟩ := List.exists_cons_of_ne_nil some
  rw [hp, List.cons_append, List.cons_prefix_cons] at begins
  exact h (begins.1 ▸ List.mem_cons_self)

theorem fillAll_of_unopened (marks : ∀ rule ∈ rules, IsMark rule.pattern) (h : '\x7b' ∉ xs)
    (ys : List Char) : fillAll rules (xs ++ ys) = xs ++ fillAll rules ys := by
  refine fillAll_append ?_
  rintro front back rfl some
  exact first?_of_unopened marks (fun inside => h (List.mem_append_right _ inside)) some ys

theorem fillAll_self_of_unopened (marks : ∀ rule ∈ rules, IsMark rule.pattern) (h : '\x7b' ∉ cs) :
    fillAll rules cs = cs := by
  simpa using fillAll_of_unopened marks h []

theorem first?_of_unclosed (marks : ∀ rule ∈ rules, IsMark rule.pattern) {mark : List Char}
    (behind : IsMark mark) (h : '\x7d' ∉ xs) (some : xs ≠ []) (ys : List Char) :
    first? rules (xs ++ (mark ++ ys)) = none := by
  refine first?_eq_none_iff.mpr fun rule hr begins => ?_
  obtain inside | ⟨zs, hz, further⟩ := prefix_append_iff.mp begins
  · exact h (inside.subset (marks rule hr).closes)
  · cases zs with
    | nil => exact h (List.append_nil xs ▸ hz ▸ (marks rule hr).closes)
    | cons d zs =>
      obtain ⟨tail, hp, unopened⟩ := (marks rule hr).exists_tail
      obtain ⟨tail', rfl, -⟩ := behind.exists_tail
      obtain ⟨c, rest, rfl⟩ := List.exists_cons_of_ne_nil some
      obtain rfl : d = '\x7b' := (List.cons_prefix_cons.mp further).1
      obtain ⟨-, rfl⟩ := List.cons.inj (hp.symm.trans hz)
      exact unopened (List.mem_append_right rest List.mem_cons_self)

theorem fillAll_of_mark (marks : ∀ rule ∈ rules, IsMark rule.pattern) (mark : IsMark pattern)
    (other : ∀ rule ∈ rules, rule.pattern ≠ pattern) (ys : List Char) :
    fillAll rules (pattern ++ ys) = pattern ++ fillAll rules ys := by
  have unfound : first? rules (pattern ++ ys) = none := by
    refine first?_eq_none_iff.mpr fun rule hr begins => other rule hr ?_
    exact (marks rule hr).eq_of_begins mark begins (List.prefix_append pattern ys)
  obtain ⟨tail, rfl, unopened⟩ := mark.exists_tail
  rw [List.cons_append] at unfound ⊢
  rw [fillAll_of_unfound unfound, fillAll_of_unopened marks unopened, List.cons_append]

theorem first?_of_idle {before after : List Rule}
    (found : first? (before ++ ⟨pattern, pattern⟩ :: after) cs = some rule)
    (other : rule.pattern ≠ pattern) : first? (before ++ after) cs = some rule := by
  rw [first?_append] at found ⊢
  cases hb : first? before cs with
  | some first => rwa [hb, Option.some_or] at found
  | none =>
    rw [hb, Option.none_or, first?, List.find?_cons] at found
    split at found
    · cases found
      exact absurd rfl other
    · rwa [Option.none_or]

theorem fillAll_idle (before after : List Rule) (mark : IsMark pattern)
    (marks : ∀ rule ∈ before ++ after, IsMark rule.pattern)
    (other : ∀ rule ∈ before ++ after, rule.pattern ≠ pattern) (cs : List Char) :
    fillAll (before ++ ⟨pattern, pattern⟩ :: after) cs = fillAll (before ++ after) cs := by
  have listed {rule : Rule} (hr : rule ∈ before ++ ⟨pattern, pattern⟩ :: after) :
      rule = ⟨pattern, pattern⟩ ∨ rule ∈ before ++ after := by
    simp only [List.mem_append, List.mem_cons] at hr ⊢
    tauto
  have nonempty : ∀ rule ∈ before ++ ⟨pattern, pattern⟩ :: after, rule.pattern ≠ [] := by
    intro rule hr
    obtain rfl | hr := listed hr
    · exact mark.ne_nil
    · exact (marks rule hr).ne_nil
  have fills := fills_fillAll nonempty cs
  generalize fillAll (before ++ ⟨pattern, pattern⟩ :: after) cs = out at fills ⊢
  induction fills with
  | nil => rfl
  | put found _ ih =>
    obtain rfl | hr := listed (List.mem_of_find?_eq_some found)
    · rw [fillAll_of_mark marks mark other, ih]
    · rw [fillAll_of_found _ (marks _ hr).ne_nil (first?_of_idle found (other _ hr)), ih]
  | copy unfound _ ih =>
    rw [fillAll_of_unfound, ih]
    refine first?_eq_none_iff.mpr fun rule hr => first?_eq_none_iff.mp unfound rule ?_
    simp only [List.mem_append, List.mem_cons] at hr ⊢
    tauto

theorem fillAll_around (rule : Rule) (marks : ∀ rule ∈ rules, IsMark rule.pattern)
    (mark : IsMark rule.pattern) (found : first? rules (rule.pattern ++ ys) = some rule)
    (unclosed : '\x7d' ∉ xs) (unopened : '\x7b' ∉ ys) :
    fillAll rules (xs ++ (rule.pattern ++ ys)) = xs ++ (rule.value ++ ys) := by
  rw [fillAll_append, fillAll_of_found rule mark.ne_nil found,
    fillAll_self_of_unopened marks unopened]
  rintro front back rfl some
  exact first?_of_unclosed marks mark (fun inside => unclosed (List.mem_append_right _ inside)) some
    ys

theorem substitute_around (mark : IsMark pattern) (value : List Char) (unclosed : '\x7d' ∉ xs)
    (unopened : '\x7b' ∉ ys) :
    substitute pattern value (xs ++ (pattern ++ ys)) = xs ++ (value ++ ys) := by
  rw [substitute_eq]
  exact fillAll_around ⟨pattern, value⟩ (by simpa using mark) mark
    (first?_single pattern value ys) unclosed unopened

theorem substitute_around_other {mark : List Char} (hp : IsMark pattern) (hm : IsMark mark)
    (other : pattern ≠ mark) (value : List Char) (unclosed : '\x7d' ∉ xs) (unopened : '\x7b' ∉ ys) :
    substitute pattern value (xs ++ (mark ++ ys)) = xs ++ (mark ++ ys) := by
  have marks : ∀ rule ∈ [(⟨pattern, value⟩ : Rule)], IsMark rule.pattern := by simpa using hp
  rw [substitute_eq, fillAll_append, fillAll_of_mark marks hm (by simpa using other),
    fillAll_self_of_unopened marks unopened]
  rintro front back rfl some
  exact first?_of_unclosed marks hm (fun inside => unclosed (List.mem_append_right _ inside)) some
    ys

/-- Where a value completes a mark, it does so between texts that neither end nor begin a mark. -/
theorem Completes.exists_around (h : Completes pattern value) (mark : IsMark pattern) :
    ∃ front back, '\x7d' ∉ front ∧ '\x7b' ∉ back ∧ pattern <:+: front ++ (value ++ back) := by
  obtain ⟨front, hf, back, hb, beginning, ending, inside⟩ := h
  refine ⟨front, back, mark.unclosed ((List.mem_inits _ _).mp hf) beginning,
    mark.unopened ((List.mem_tails _ _).mp hb) ending, ?_⟩
  rwa [← List.append_assoc]

theorem completes_of_begins {front back : List Char} (h : pattern ≠ [])
    (begins : pattern <+: back ++ ys) (some : back ≠ []) : Completes pattern (front ++ back) := by
  obtain inside | ⟨zs, rfl, -⟩ := prefix_append_iff.mp begins
  · refine ⟨[], List.mem_inits _ _ |>.mpr (List.nil_prefix), [], List.mem_tails _ _ |>.mpr
      (List.nil_suffix), h.symm, h.symm, ?_⟩
    rw [List.nil_append, List.append_nil]
    exact inside.isInfix.trans (List.suffix_append front back).isInfix
  · refine ⟨[], List.mem_inits _ _ |>.mpr (List.nil_prefix), zs, List.mem_tails _ _ |>.mpr
      (List.suffix_append back zs), h.symm, ?_, ?_⟩
    · simpa using some
    · rw [List.nil_append, List.append_assoc]
      exact (List.suffix_append front _).isInfix

theorem substitute_append (h : pattern ≠ []) (inert : ¬ Completes pattern xs) (ys : List Char) :
    substitute pattern value (xs ++ ys) = xs ++ substitute pattern value ys := by
  rw [substitute_eq, substitute_eq]
  refine fillAll_append ?_
  rintro front back rfl some
  refine first?_eq_none_iff.mpr fun rule hr begins => ?_
  obtain rfl := List.mem_singleton.mp hr
  exact inert (completes_of_begins h begins some)

theorem completes_of_beginning {front back : List Char} (first : front ≠ []) (last : back ≠ [])
    (h : back <+: xs ++ ys) : Completes (front ++ back) xs := by
  have begins : front ∈ (front ++ back).inits :=
    (List.mem_inits _ _).mpr (List.prefix_append front back)
  have partly : front ≠ front ++ back := by simpa using last
  obtain ⟨rest, rfl⟩ | ⟨zs, rfl, -⟩ := prefix_append_iff.mp h
  · refine ⟨front, begins, [], (List.mem_tails _ _).mpr List.nil_suffix, partly, ?_, ?_⟩
    · simp [first]
    · rw [List.append_nil, ← List.append_assoc]
      exact (List.prefix_append _ rest).isInfix
  · refine ⟨front, begins, zs, (List.mem_tails _ _).mpr ?_, partly, ?_, ?_⟩
    · rw [← List.append_assoc]
      exact List.suffix_append _ zs
    · intro whole
      have length := congrArg List.length whole
      have pos := List.length_pos_iff.mpr first
      simp only [List.length_append] at length
      omega
    · rw [List.append_assoc]

/-- An end of a pattern that shows behind a beginning of it was there before the pass. -/
theorem Fills.begins_of_begins (fills : Fills rules cs out)
    (inert : ∀ rule ∈ rules, ¬ Completes pattern rule.value) (front back : List Char)
    (hp : front ++ back = pattern) (some : front ≠ []) (h : back <+: out) : back <+: cs := by
  induction fills generalizing front back with
  | nil => exact h
  | put found =>
    cases back with
    | nil => exact List.nil_prefix
    | cons d back =>
      have completes := completes_of_beginning some (List.cons_ne_nil d back) h
      rw [hp] at completes
      exact absurd completes (inert _ (List.mem_of_find?_eq_some found))
  | copy _ _ ih =>
    cases back with
    | nil => exact List.nil_prefix
    | cons d back =>
      obtain ⟨rfl, further⟩ := List.cons_prefix_cons.mp h
      rw [← List.singleton_append, ← List.append_assoc] at hp
      exact List.cons_prefix_cons.mpr ⟨rfl, ih _ _ hp (by simp) further⟩

theorem Fills.eq (nonempty : ∀ rule ∈ rules, rule.pattern ≠ []) (fills : Fills rules cs out) :
    fillAll rules cs = out := by
  induction fills with
  | nil => rfl
  | put found _ ih =>
    rw [fillAll_of_found _ (nonempty _ (List.mem_of_find?_eq_some found)) found, ih]
  | copy unfound _ ih => rw [fillAll_of_unfound unfound, ih]

theorem substitute_of_fills (fills : Fills rules cs out)
    (marks : ∀ rule ∈ rules, IsMark rule.pattern) (mark : IsMark pattern)
    (inert : ∀ rule ∈ rules, ¬ Completes pattern rule.value) (value : List Char) :
    substitute pattern value out = fillAll (rules ++ [⟨pattern, value⟩]) cs := by
  have nonempty : ∀ rule ∈ rules, rule.pattern ≠ [] := fun rule hr => (marks rule hr).ne_nil
  have single : ∀ rule ∈ [(⟨pattern, value⟩ : Rule)], IsMark rule.pattern := by simpa using mark
  have all : ∀ rule ∈ rules ++ [⟨pattern, value⟩], IsMark rule.pattern :=
    List.forall_mem_append.mpr ⟨marks, single⟩
  induction fills with
  | nil => rfl
  | @put rule cs out found _ ih =>
    have hr := List.mem_of_find?_eq_some found
    have found' : first? (rules ++ [⟨pattern, value⟩]) (rule.pattern ++ cs) = some rule := by
      rw [first?_append, found, Option.some_or]
    rw [substitute_append mark.ne_nil (inert rule hr), ih,
      fillAll_of_found rule (marks rule hr).ne_nil found']
  | @copy c cs out unfound rest ih =>
    obtain ⟨tail, hp, unopened⟩ := mark.exists_tail
    by_cases stands : pattern <+: c :: cs
    · obtain ⟨behind, hb⟩ := stands
      have found : first? (rules ++ [⟨pattern, value⟩]) (pattern ++ behind) =
          some ⟨pattern, value⟩ := by
        rw [first?_append, hb, unfound, ← hb, first?_single, Option.none_or]
      obtain ⟨rfl, rfl⟩ : '\x7b' = c ∧ tail ++ behind = cs := by
        rw [hp] at hb
        exact List.cons.inj hb
      have copied : out = tail ++ fillAll rules behind := by
        rw [← rest.eq nonempty, fillAll_of_unopened marks unopened]
      rw [copied, substitute_eq, fillAll_of_unopened single unopened,
        fillAll_of_unopened all unopened] at ih
      have same := List.append_cancel_left ih
      have alone := fillAll_of_found ⟨pattern, value⟩ mark.ne_nil
        (first?_single pattern value (fillAll rules behind))
      have amongst := fillAll_of_found ⟨pattern, value⟩ mark.ne_nil found
      rw [copied, ← List.cons_append, ← List.cons_append, ← hp, substitute_eq, alone, amongst, same]
    · have absent : ¬ pattern <+: c :: out := by
        intro shows
        rw [hp] at shows stands
        obtain ⟨rfl, further⟩ := List.cons_prefix_cons.mp shows
        exact stands (List.cons_prefix_cons.mpr
          ⟨rfl, rest.begins_of_begins inert ['\x7b'] tail hp.symm (by simp) further⟩)
      have unfound' : first? (rules ++ [⟨pattern, value⟩]) (c :: cs) = none := by
        rw [first?_append, unfound, Option.none_or, first?_eq_none_iff]
        simpa using stands
      have unfound'' : first? [(⟨pattern, value⟩ : Rule)] (c :: out) = none := by
        rw [first?_eq_none_iff]
        simpa using absent
      rw [substitute_eq, fillAll_of_unfound unfound'', fillAll_of_unfound unfound',
        ← substitute_eq, ih]

/-- Replacing one more pattern after a pass is one pass with that pattern, if no value of the pass
completes it. -/
theorem substitute_fillAll (marks : ∀ rule ∈ rules, IsMark rule.pattern) (mark : IsMark pattern)
    (inert : ∀ rule ∈ rules, ¬ Completes pattern rule.value) (value cs : List Char) :
    substitute pattern value (fillAll rules cs) = fillAll (rules ++ [⟨pattern, value⟩]) cs :=
  substitute_of_fills (fills_fillAll (fun rule hr => (marks rule hr).ne_nil) cs) marks mark inert
    value

end ForumDigest.Text
