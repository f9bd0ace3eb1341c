import ForumDigest.Proofs.Json.Record

namespace ForumDigest.Json

/-- The names of fields, a value in which they are null, and the value without them. -/
abbrev Nulling : Type := List String → List Char → List Char → Prop

namespace Nulling

inductive Same : Nulling where
  | intro {val : List Char} (h : IsValue val) : Same [] val val

/-- Inside the value of the field `nested`, if at all. -/
inductive Within (nested : String) (inner : Nulling) : (name : String) → Nulling where
  | same {name : String} {names : List String} {v w : List Char} (h : Same names v w) :
    Within nested inner name names v w
  | inner {names : List String} {v w : List Char} (h : inner names v w) :
    Within nested inner nested names v w

inductive Elementwise (inner : Nulling) : List String → List Element → List Element → Prop where
  | nil : Elementwise inner [] [] []
  | cons {names rest : List String} {e e' : Element} {es es' : List Element} (he : e.Apart)
    (he' : e'.Apart) (value : inner names e.value e'.value) (h : Elementwise inner rest es es') :
    Elementwise inner (names ++ rest) (e :: es) (e' :: es')

inductive InArray (inner : Nulling) : Nulling where
  | intro {names : List String} {b b' : List Char} {es es' : List Element} (hb : Blank b)
    (hb' : Blank b') (h : Elementwise inner names es es') :
    InArray inner names (arrayText b es) (arrayText b' es')

/-- The members of two objects: `own` are the names of members that are null in the first and left
out in the second, `deep` the names inside other members. -/
inductive Memberwise (nullable : List String) (inner : String → Nulling) :
    (own deep : List String) → List Member → List Member → Prop where
  | nil : Memberwise nullable inner [] [] [] []
  | keep {name : String} {names own deep : List String} {m m' : Member} {ms ms' : List Member}
    (hm : m.Apart) (hm' : m'.Apart) (named : m.Named name) (named' : m'.Named name)
    (value : inner name names m.value.value m'.value.value)
    (h : Memberwise nullable inner own deep ms ms') :
    Memberwise nullable inner own (names ++ deep) (m :: ms) (m' :: ms')
  | null {name : String} {own deep : List String} {m : Member} {ms ms' : List Member}
    (hm : m.Apart) (known : name ∈ nullable) (named : m.Named name)
    (value : m.value.value = ['n', 'u', 'l', 'l'])
    (h : Memberwise nullable inner own deep ms ms') :
    Memberwise nullable inner (name :: own) deep (m :: ms) ms'

/-- The elements of two arrays that stand for the fields of a record, as far as they go. -/
inductive Fieldwise (inner : String → Nulling) :
    (fields : List String) → List String → List Element → List Element → Prop where
  | nil {fields : List String} : Fieldwise inner fields [] [] []
  | cons {field : String} {fields names rest : List String} {e e' : Element}
    {es es' : List Element} (he : e.Apart) (he' : e'.Apart)
    (value : inner field names e.value e'.value) (h : Fieldwise inner fields rest es es') :
    Fieldwise inner (field :: fields) (names ++ rest) (e :: es) (e' :: es')

/-- A record whose members of the `nullable` names may be null. No name stands twice. -/
inductive InRecord (fields nullable : List String) (inner : String → Nulling) : Nulling where
  | object {own deep : List String} {b b' : List Char} {ms ms' : List Member} (hb : Blank b)
    (hb' : Blank b') (h : Memberwise nullable inner own deep ms ms') (nodup : own.Nodup)
    (fresh : ∀ n ∈ own, ∀ m ∈ ms', ¬ m.Named n) :
    InRecord fields nullable inner (own ++ deep) (objectText b ms) (objectText b' ms')
  | array {names : List String} {b b' : List Char} {es es' : List Element} (hb : Blank b)
    (hb' : Blank b') (h : Fieldwise inner fields names es es') :
    InRecord fields nullable inner names (arrayText b es) (arrayText b' es')

/-- A nulling of values. -/
def Sound (n : Nulling) : Prop := ∀ ⦃names v w⦄, n names v w → IsValue v ∧ IsValue w

end Nulling

open Nulling

variable {α β σ : Type} {free : List String}

theorem sound_same : Sound Same := fun _ _ _ h => by
  cases h with
  | intro h => exact ⟨h, h⟩

theorem sound_within {inner : Nulling} (h : Sound inner) (nested name : String) :
    Sound (Within nested inner name) := fun _ _ _ hw => by
  cases hw with
  | same hs => exact sound_same hs
  | inner hi => exact h hi

theorem Elementwise.values {inner : Nulling} (sound : Sound inner) {names : List String}
    {es es' : List Element} (h : Elementwise inner names es es') :
    (∀ e ∈ es, e.Apart ∧ IsValue e.value) ∧ ∀ e ∈ es', e.Apart ∧ IsValue e.value := by
  induction h with
  | nil => simp
  | cons he he' value _ ih =>
    obtain ⟨v, w⟩ := sound value
    exact ⟨List.forall_mem_cons.mpr ⟨⟨he, v⟩, ih.1⟩, List.forall_mem_cons.mpr ⟨⟨he', w⟩, ih.2⟩⟩

theorem Fieldwise.values {inner : String → Nulling} (sound : ∀ name, Sound (inner name))
    {fields names : List String} {es es' : List Element} (h : Fieldwise inner fields names es es') :
    (∀ e ∈ es, e.Apart ∧ IsValue e.value) ∧ ∀ e ∈ es', e.Apart ∧ IsValue e.value := by
  induction h with
  | nil => simp
  | cons he he' value _ ih =>
    obtain ⟨v, w⟩ := sound _ value
    exact ⟨List.forall_mem_cons.mpr ⟨⟨he, v⟩, ih.1⟩, List.forall_mem_cons.mpr ⟨⟨he', w⟩, ih.2⟩⟩

theorem Memberwise.values {nullable : List String} {inner : String → Nulling}
    (sound : ∀ name, Sound (inner name)) {own deep : List String} {ms ms' : List Member}
    (h : Memberwise nullable inner own deep ms ms') :
    (∀ m ∈ ms, m.Apart ∧ IsValue m.value.value) ∧ ∀ m ∈ ms', m.Apart ∧ IsValue m.value.value := by
  induction h with
  | nil => simp
  | keep hm hm' _ _ value _ ih =>
    obtain ⟨v, w⟩ := sound _ value
    exact ⟨List.forall_mem_cons.mpr ⟨⟨hm, v⟩, ih.1⟩, List.forall_mem_cons.mpr ⟨⟨hm', w⟩, ih.2⟩⟩
  | null hm _ _ value _ ih =>
    exact ⟨List.forall_mem_cons.mpr ⟨⟨hm, value ▸ .null⟩, ih.1⟩, ih.2⟩

theorem sound_inArray {inner : Nulling} (sound : Sound inner) : Sound (InArray inner) := fun _ _ _ h => by
  cases h with
  | intro hb hb' h =>
    obtain ⟨v, w⟩ := Elementwise.values sound h
    exact ⟨.array hb (fun e he => (v e he).1) fun e he => (v e he).2,
      .array hb' (fun e he => (w e he).1) fun e he => (w e he).2⟩

theorem sound_inRecord {fields nullable : List String} {inner : String → Nulling}
    (sound : ∀ name, Sound (inner name)) : Sound (InRecord fields nullable inner) := fun _ _ _ h => by
  cases h with
  | object hb hb' h _ _ =>
    obtain ⟨v, w⟩ := Memberwise.values sound h
    exact ⟨.object hb (fun m hm => (v m hm).1) fun m hm => (v m hm).2,
      .object hb' (fun m hm => (w m hm).1) fun m hm => (w m hm).2⟩
  | array hb hb' h =>
    obtain ⟨v, w⟩ := Fieldwise.values sound h
    exact ⟨.array hb (fun e he => (v e he).1) fun e he => (v e he).2,
      .array hb' (fun e he => (w e he).1) fun e he => (w e he).2⟩

/-- The names are free to be null, and the reading is the same; or one is not, and the reading is
refused. -/
def Outcome (free names : List String) (a : α) (read : Except Error α) : Prop :=
  if ∀ n ∈ names, n ∈ free then read = .ok a
  else ∃ kind, read = .error (.invalidType "null" kind)

/-- Whatever is null in a text and left out in another one that is read. -/
def Tolerates (free : List String) (r : Reader α) (n : Nulling) : Prop :=
  ∀ ⦃names v w a⦄, n names v w → r.value w = .ok a → Outcome free names a (r.value v)

theorem outcome_nil (a : α) : Outcome free [] a (.ok a) := by
  simp [Outcome]

theorem Outcome.append {names rest : List String} {a : α} {b : β} {read : Except Error α}
    {next : α → Except Error β} (first : Outcome free names a read)
    (second : Outcome free rest b (next a)) : Outcome free (names ++ rest) b (read.bind next) := by
  unfold Outcome at first second ⊢
  simp only [List.forall_mem_append]
  by_cases hn : ∀ n ∈ names, n ∈ free
  · rw [if_pos hn] at first
    subst first
    by_cases hr : ∀ n ∈ rest, n ∈ free
    · rw [if_pos hr] at second
      rw [if_pos ⟨hn, hr⟩]
      exact second
    · rw [if_neg hr] at second
      rw [if_neg fun h => hr h.2]
      exact second
  · rw [if_neg hn] at first
    obtain ⟨kind, rfl⟩ := first
    rw [if_neg fun h => hn h.1]
    exact ⟨kind, rfl⟩

theorem Outcome.map {names : List String} {a : α} {read : Except Error α}
    (h : Outcome free names a read) (f : α → β) : Outcome free names (f a) (read.map f) := by
  have after : Outcome free (names ++ []) (f a) (read.bind fun a => .ok (f a)) :=
    h.append (outcome_nil (f a))
  rw [List.append_nil] at after
  cases read <;> exact after

theorem tolerates_same (r : Reader α) : Tolerates free r Same := fun _ _ _ _ h read => by
  cases h with
  | intro _ => rw [read]; exact outcome_nil _

theorem tolerates_within {nested name : String} {inner : Nulling} {r : Reader α}
    (h : name = nested → Tolerates free r inner) :
    Tolerates free r (Within nested inner name) := fun _ _ _ _ hw read => by
  cases hw with
  | same hs => exact tolerates_same r hs read
  | inner hi => exact h rfl hi read

theorem exists_of_bind_ok {read : Except Error α} {f : α → Except Error β} {b : β}
    (h : read.bind f = .ok b) : ∃ a, read = .ok a ∧ f a = .ok b := by
  cases read with
  | error e => cases h
  | ok a => exact ⟨a, rfl, h⟩

theorem exists_of_map_ok {read : Except Error α} {f : α → β} {b : β} (h : read.map f = .ok b) :
    ∃ a, read = .ok a ∧ f a = b := by
  cases read with
  | error e => cases h
  | ok a => exact ⟨a, rfl, Except.ok.inj h⟩

theorem Tolerates.map {r : Reader α} {n : Nulling} (h : Tolerates free r n) (f : α → β) :
    Tolerates free (r.map f) n := fun _ _ _ _ hn read => by
  rw [value_map] at read ⊢
  obtain ⟨a, ha, rfl⟩ := exists_of_map_ok read
  exact (h hn ha).map f

theorem outcome_values {r : Reader α} {inner : Nulling} (h : Tolerates free r inner)
    {names : List String} {es es' : List Element} (he : Elementwise inner names es es') {as : List α}
    (read : r.values es' = .ok as) : Outcome free names as (r.values es) := by
  induction he generalizing as with
  | nil =>
    rw [read]
    exact outcome_nil as
  | cons _ _ value _ ih =>
    rw [values_cons] at read ⊢
    obtain ⟨a, ha, tail⟩ := exists_of_bind_ok read
    obtain ⟨rest, hr, rfl⟩ := exists_of_map_ok tail
    exact (h value ha).append ((ih hr).map (a :: ·))

theorem tolerates_array {r : Reader α} {inner : Nulling} (hr : r.Exact) (sound : Sound inner)
    (h : Tolerates free r inner) : Tolerates free (readList r) (InArray inner) := fun _ _ _ _ ha read => by
  cases ha with
  | intro hb hb' he =>
    obtain ⟨v, w⟩ := Elementwise.values sound he
    rw [value_readList hr hb' (fun e hm => (w e hm).1) fun e hm => (w e hm).2] at read
    rw [value_readList hr hb (fun e hm => (v e hm).1) fun e hm => (v e hm).2]
    exact outcome_values h he read

theorem value_readOption_array (r : Reader α) (b : List Char) (es : List Element) :
    (readOption r).value (arrayText b es) = (r.value (arrayText b es)).map some := by
  rw [← value_map, Reader.value, Reader.value, arrayText,
    readOption_some r (by decide) (by decide)]

theorem Tolerates.option {r : Reader α} {inner : Nulling}
    (h : Tolerates free r (InArray inner)) : Tolerates free (readOption r) (InArray inner) :=
  fun _ _ _ _ ha read => by
    cases ha with
    | intro hb hb' he =>
      rw [value_readOption_array] at read ⊢
      obtain ⟨a, ha, rfl⟩ := exists_of_map_ok read
      exact (h (.intro hb hb' he) ha).map some

theorem Outcome.congr {names names' : List String} {a : α} {read : Except Error α}
    (h : Outcome free names a read) (same : ∀ n, n ∈ names' ↔ n ∈ names) :
    Outcome free names' a read := by
  simpa only [Outcome, same] using h

def readOn (fields : List (RecordField σ)) (state : σ × List String) (ms : List Member) :
    Except Error σ :=
  (ms.foldlM (meet fields) state).bind (settle fields)

theorem readOn_cons (fields : List (RecordField σ)) (state : σ × List String) (m : Member)
    (ms : List Member) :
    readOn fields state (m :: ms) =
      (meet fields state m).bind fun state' => readOn fields state' ms := by
  rw [readOn, List.foldlM_cons]
  rcases meet fields state m with e | state' <;> rfl

theorem settle_of_sub {fields : List (RecordField σ)} {s a : σ} {seen seen' : List String}
    (sub : ∀ n ∈ seen, n ∈ seen') (h : settle fields (s, seen) = .ok a) :
    settle fields (s, seen') = .ok a := by
  have complete : missing? fields seen = none := by
    unfold settle at h
    split at h
    · cases h
    · assumption
  have complete' : missing? fields seen' = none := by
    unfold missing? at complete ⊢
    rw [Option.map_eq_none_iff, List.find?_eq_none] at complete ⊢
    intro f hf needed
    refine complete f hf ?_
    simp only [Bool.and_eq_true, decide_eq_true_iff, Bool.not_eq_true', List.contains_eq_mem,
      decide_eq_false_iff_not] at needed ⊢
    exact ⟨needed.1, fun hn => needed.2 (sub _ hn)⟩
  rw [settle, complete] at h
  rw [settle, complete']
  exact h

def Idle (f : RecordField σ) (s : σ) : Prop := (f.read s).value ['n', 'u', 'l', 'l'] = .ok s

/-- How the fields of a record take nulls: the free ones are idle until they are met, the others
refuse, and names of no field hold nothing that counts. -/
structure Forgiving (free nullable : List String) (fields : List (RecordField σ)) (start : σ)
    (inner : String → Nulling) : Prop where
  exact : ExactFields fields
  sound : ∀ name, Sound (inner name)
  tolerates : ∀ f ∈ fields, ∀ s, Tolerates free (f.read s) (inner f.name)
  foreign : ∀ {name names v w}, (∀ f ∈ fields, f.name ≠ name) → inner name names v w → names = []
  known : ∀ n ∈ nullable, ∃ f ∈ fields, f.name = n
  refuses : ∀ f ∈ fields, f.name ∈ nullable → f.name ∉ free → ∀ s, ∃ kind,
    (f.read s).value ['n', 'u', 'l', 'l'] = .error (.invalidType "null" kind)
  idle : ∀ f ∈ fields, f.name ∈ nullable → f.name ∈ free → Idle f start
  keeps : ∀ f ∈ fields, f.name ∈ nullable → f.name ∈ free → ∀ g ∈ fields, g.name ≠ f.name →
    ∀ {s s' val}, (g.read s).value val = .ok s' → Idle f s → Idle f s'

theorem foreign_within {nested : String} {inner : Nulling} {fields : List (RecordField σ)}
    (h : ∃ f ∈ fields, f.name = nested) {name : String} {names : List String} {v w : List Char}
    (other : ∀ f ∈ fields, f.name ≠ name) (hw : Within nested inner name names v w) :
    names = [] := by
  cases hw with
  | same hs =>
    cases hs
    rfl
  | inner _ =>
    obtain ⟨f, hf, hn⟩ := h
    exact absurd hn (other f hf)

theorem Forgiving.within {nested : String} {inner : Nulling} {fields : List (RecordField σ)}
    {start : σ} (exact : ExactFields fields) (sound : Sound inner)
    (known : ∃ f ∈ fields, f.name = nested)
    (tolerates : ∀ f ∈ fields, f.name = nested → ∀ s, Tolerates free (f.read s) inner) :
    Forgiving free [] fields start (Within nested inner) where
  exact := exact
  sound := sound_within sound nested
  tolerates f hf s := tolerates_within fun hn => tolerates f hf hn s
  foreign := foreign_within known
  known _ hn := absurd hn List.not_mem_nil
  refuses _ _ hn := absurd hn List.not_mem_nil
  idle _ _ hn := absurd hn List.not_mem_nil
  keeps _ _ hn := absurd hn List.not_mem_nil

namespace Forgiving

variable {nullable : List String} {fields : List (RecordField σ)} {start : σ}
  {inner : String → Nulling} (F : Forgiving free nullable fields start inner)
include F

theorem outcome_place (title : String) (count : Nat) {rest : List (RecordField σ)}
    (sub : ∀ f ∈ rest, f ∈ fields) {names : List String} {es es' : List Element}
    (h : Fieldwise inner (rest.map RecordField.name) names es es') {index : Nat} {s a : σ}
    (read : place title count rest index s es' = .ok a) :
    Outcome free names a (place title count rest index s es) := by
  induction rest generalizing index s names es es' with
  | nil =>
    cases h
    rw [read]
    exact outcome_nil a
  | cons f rest ih =>
    cases h with
    | nil =>
      rw [read]
      exact outcome_nil a
    | cons _ _ value h =>
      obtain ⟨s', hs, tail⟩ := exists_of_bind_ok read
      exact (F.tolerates f (sub f List.mem_cons_self) s value hs).append
        (ih (fun g hg => sub g (List.mem_cons_of_mem f hg)) h tail)

/-- Where the members of two objects are met side by side: `own` are the names yet to be met in the
first one only, `seen` and `seen'` the names met in the second and in the first. -/
structure Ready (free nullable : List String) (fields : List (RecordField σ)) (own : List String)
    (ms : List Member) (s : σ) (seen seen' : List String) : Prop where
  known : ∀ n ∈ own, n ∈ nullable
  nodup : own.Nodup
  fresh : ∀ n ∈ own, ∀ m ∈ ms, ¬ m.Named n
  unmet : ∀ n ∈ own, n ∉ seen'
  sub : ∀ n ∈ seen, n ∈ seen'
  only : ∀ n ∈ seen', n ∉ seen → ∀ m ∈ ms, ¬ m.Named n
  idle : ∀ f ∈ fields, f.name ∈ own → f.name ∈ free → Idle f s

omit F in
theorem Ready.keep {own : List String} {m : Member} {ms : List Member} {s : σ}
    {seen seen' : List String} (h : Ready free nullable fields own (m :: ms) s seen seen') :
    Ready free nullable fields own ms s seen seen' where
  known := h.known
  nodup := h.nodup
  fresh n hn m' hm := h.fresh n hn m' (List.mem_cons_of_mem m hm)
  unmet := h.unmet
  sub := h.sub
  only n hn hs m' hm := h.only n hn hs m' (List.mem_cons_of_mem m hm)
  idle := h.idle

theorem Ready.read {own : List String} {m : Member} {ms : List Member} {s s' : σ}
    {seen seen' : List String} (h : Ready free nullable fields own (m :: ms) s seen seen')
    {f : RecordField σ} (hf : f ∈ fields) (named : m.Named f.name) {val : List Char}
    (read : (f.read s).value val = .ok s') :
    Ready free nullable fields own ms s' (f.name :: seen) (f.name :: seen') := by
  have apart (n : String) (hn : n ∈ own) : n ≠ f.name := by
    rintro rfl
    exact h.fresh _ hn m List.mem_cons_self named
  refine { h.keep with unmet := ?_, sub := ?_, only := ?_, idle := ?_ }
  · exact fun n hn => List.not_mem_cons_of_ne_of_not_mem (apart n hn) (h.unmet n hn)
  · exact fun n hn => (List.mem_cons.mp hn).elim (fun he => he ▸ List.mem_cons_self)
      fun hn => List.mem_cons_of_mem _ (h.sub n hn)
  · intro n hn hs m' hm
    obtain rfl | hn := List.mem_cons.mp hn
    · exact absurd List.mem_cons_self hs
    · exact h.keep.only n hn (fun hn => hs (List.mem_cons_of_mem _ hn)) m' hm
  · intro g hg hown hfree
    exact F.keeps g hg (h.known _ hown) hfree f hf (apart _ hown).symm read
      (h.idle g hg hown hfree)

omit F in
theorem Ready.null {name : String} {own : List String} {ms : List Member} {s : σ}
    {seen seen' : List String}
    (h : Ready free nullable fields (name :: own) ms s seen seen') :
    Ready free nullable fields own ms s seen (name :: seen') where
  known n hn := h.known n (List.mem_cons_of_mem name hn)
  nodup := (List.nodup_cons.mp h.nodup).2
  fresh n hn := h.fresh n (List.mem_cons_of_mem name hn)
  unmet n hn := by
    refine List.not_mem_cons_of_ne_of_not_mem ?_ (h.unmet n (List.mem_cons_of_mem name hn))
    rintro rfl
    exact (List.nodup_cons.mp h.nodup).1 hn
  sub n hn := List.mem_cons_of_mem name (h.sub n hn)
  only n hn hs m hm := by
    obtain rfl | hn := List.mem_cons.mp hn
    · exact h.fresh n List.mem_cons_self m hm
    · exact h.only n hn hs m hm
  idle f hf hown := h.idle f hf (List.mem_cons_of_mem name hown)

theorem outcome_meet_null {name : String} {own : List String} {m : Member} {ms : List Member}
    {s : σ} {seen seen' : List String} (named : m.Named name)
    (value : m.value.value = ['n', 'u', 'l', 'l'])
    (h : Ready free nullable fields (name :: own) ms s seen seen') :
    Outcome free [name] (s, name :: seen') (meet fields (s, seen') m) := by
  have hn := h.known name List.mem_cons_self
  have unmet := h.unmet name List.mem_cons_self
  obtain ⟨g, hg, hgn⟩ := F.known name hn
  rw [meet_named named]
  rcases hs : fields.find? (·.name = name) with _ | f
  · exact absurd (List.find?_eq_none.mp hs g hg) (by simp [hgn])
  have hf := List.mem_of_find?_eq_some hs
  obtain rfl : f.name = name := by simpa using List.find?_some hs
  rw [hs]
  simp only [List.contains_eq_mem, unmet, decide_false, Bool.false_eq_true, if_false, value]
  unfold Outcome
  simp only [List.mem_singleton, forall_eq]
  by_cases hfree : f.name ∈ free
  · rw [if_pos hfree, h.idle f hf List.mem_cons_self hfree]
    rfl
  · rw [if_neg hfree]
    obtain ⟨kind, refused⟩ := F.refuses f hf hn hfree s
    exact ⟨kind, by rw [refused]; rfl⟩

theorem outcome_meet_keep {name : String} {names own : List String} {m m' : Member}
    {ms : List Member} {s s' : σ} {seen done seen' : List String} (named : m.Named name)
    (named' : m'.Named name) (value : inner name names m.value.value m'.value.value)
    (h : Ready free nullable fields own (m' :: ms) s seen seen')
    (met : meet fields (s, seen) m' = .ok (s', done)) :
    ∃ done', Outcome free names (s', done') (meet fields (s, seen') m) ∧
      Ready free nullable fields own ms s' done done' := by
  rw [meet_named named'] at met
  rw [meet_named named]
  rcases hs : fields.find? (·.name = name) with _ | f
  · rw [hs] at met
    obtain ⟨rfl, rfl⟩ := Prod.mk.inj (Except.ok.inj met)
    have other : ∀ f ∈ fields, f.name ≠ name := by simpa using List.find?_eq_none.mp hs
    obtain rfl := F.foreign other value
    rw [hs]
    exact ⟨seen', outcome_nil _, h.keep⟩
  · have hf := List.mem_of_find?_eq_some hs
    obtain rfl : f.name = name := by simpa using List.find?_some hs
    rw [hs] at met ⊢
    by_cases unmet : f.name ∈ seen
    · simp [unmet] at met
    simp only [List.contains_eq_mem, unmet, decide_false, Bool.false_eq_true, if_false] at met
    obtain ⟨t, read, ht⟩ := exists_of_map_ok met
    obtain ⟨rfl, rfl⟩ := Prod.mk.inj ht
    -- Only names that were null are met in the first text alone, and no other member bears one.
    have unmet' : f.name ∉ seen' := fun hn => h.only _ hn unmet m' List.mem_cons_self named'
    simp only [List.contains_eq_mem, unmet', decide_false, Bool.false_eq_true, if_false]
    exact ⟨f.name :: seen', (F.tolerates f hf s value read).map (·, f.name :: seen'),
      Ready.read F h hf named' read⟩

theorem outcome_readOn {own deep : List String} {ms ms' : List Member}
    (hm : Memberwise nullable inner own deep ms ms') {s a : σ} {seen seen' : List String}
    (h : Ready free nullable fields own ms' s seen seen')
    (read : readOn fields (s, seen) ms' = .ok a) :
    Outcome free (own ++ deep) a (readOn fields (s, seen') ms) := by
  -- The two readings go side by side: `Ready` relates what both have met, and holds again behind each
  -- member.
  induction hm generalizing s seen seen' with
  | nil =>
    have settled : readOn fields (s, seen') [] = .ok a := settle_of_sub h.sub read
    rw [settled]
    exact outcome_nil a
  | @keep name names own deep m m' ms ms' _ _ named named' value _ ih =>
    rw [readOn_cons] at read ⊢
    obtain ⟨⟨s', done⟩, met, tail⟩ := exists_of_bind_ok read
    obtain ⟨done', step, ready⟩ := F.outcome_meet_keep named named' value h met
    refine (step.append (ih ready tail)).congr fun n => ?_
    simp only [List.mem_append]
    exact or_left_comm
  | null _ _ named value _ ih =>
    rw [readOn_cons]
    exact (F.outcome_meet_null named value h).append (ih h.null read)

theorem ready_start {own deep : List String} {ms ms' : List Member}
    (hm : Memberwise nullable inner own deep ms ms') (nodup : own.Nodup)
    (fresh : ∀ n ∈ own, ∀ m ∈ ms', ¬ m.Named n) :
    Ready free nullable fields own ms' start [] [] := by
  have known : ∀ n ∈ own, n ∈ nullable := by
    clear nodup fresh
    induction hm with
    | nil => simp
    | keep _ _ _ _ _ _ ih => exact ih
    | null _ hn _ _ _ ih => exact List.forall_mem_cons.mpr ⟨hn, ih⟩
  exact ⟨known, nodup, fresh, by simp, by simp, by simp,
    fun f hf hown hfree => F.idle f hf (known _ hown) hfree⟩

theorem tolerates_record (title : String) :
    Tolerates free (readRecord title fields start)
      (InRecord (fields.map RecordField.name) nullable inner) := fun _ _ _ _ h read => by
  cases h with
  | object hb hb' hm nodup fresh =>
    obtain ⟨v, w⟩ := Memberwise.values F.sound hm
    rw [value_readRecord_object F.exact title hb' (fun m hm => (w m hm).1) fun m hm => (w m hm).2]
      at read
    rw [value_readRecord_object F.exact title hb (fun m hm => (v m hm).1) fun m hm => (v m hm).2]
    exact F.outcome_readOn hm (F.ready_start hm nodup fresh) read
  | array hb hb' he =>
    obtain ⟨v, w⟩ := Fieldwise.values F.sound he
    rw [value_readRecord_array F.exact title hb' (fun e he => (w e he).1) fun e he => (w e he).2]
      at read
    rw [value_readRecord_array F.exact title hb (fun e he => (v e he).1) fun e he => (v e he).2]
    exact F.outcome_place title fields.length (fun _ hf => hf) he read

end Forgiving

end ForumDigest.Json
