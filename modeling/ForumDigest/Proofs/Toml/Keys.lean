import ForumDigest.Toml.Document
import Mathlib.Data.List.Nodup

namespace ForumDigest.Toml

def keys (items : List (String × Value)) : List String := items.map Prod.fst

def Table.Distinct (t : Table) : Prop := (keys t.items).Nodup

theorem not_mem_keys_iff {items : List (String × Value)} {key : String} :
    key ∉ keys items ↔ items.lookup key = none := by
  rw [List.lookup_eq_none_iff, keys, List.mem_map]
  constructor
  · intro h item hi
    exact bne_iff_ne.mpr fun he => h ⟨item, hi, he.symm⟩
  · rintro h ⟨item, hi, rfl⟩
    exact bne_iff_ne.mp (h item hi) rfl

namespace Table

variable {t t' : Table}

theorem keys_put (key : String) (v : Value) (items : List (String × Value)) :
    keys (put key v items) = if key ∈ keys items then keys items else keys items ++ [key] := by
  induction items with
  | nil => simp [put, keys]
  | cons item items ih =>
    obtain ⟨k, old⟩ := item
    unfold put
    by_cases h : k = key
    · simp [h, keys]
    · have apart : key ≠ k := fun he => h he.symm
      have more : keys ((k, old) :: put key v items) = k :: keys (put key v items) := rfl
      have here : keys ((k, old) :: items) = k :: keys items := rfl
      rw [if_neg h, more, here, ih]
      simp only [List.mem_cons, apart, false_or]
      split <;> rfl

theorem nodup_put {items : List (String × Value)} (h : (keys items).Nodup) (key : String)
    (v : Value) : (keys (put key v items)).Nodup := by
  rw [keys_put]
  split
  · exact h
  · rename_i missing
    rw [← List.concat_eq_append]
    exact h.concat missing

theorem Distinct.alter {inline dotted : Bool} {f : Table → Option Table}
    (hf : ∀ {t t' : Table}, t.Distinct → f t = some t' → t'.Distinct) {path : List String}
    (h : t.Distinct) (ht : t.alter inline dotted f path = some t') : t'.Distinct := by
  cases path with
  | nil => exact hf h ht
  | cons key path =>
    unfold Table.alter at ht
    split at ht
    · obtain ⟨child, -, ht⟩ := Option.bind_eq_some_iff.mp ht
      obtain rfl := Option.some.inj ht
      exact nodup_put h key _
    · split at ht
      · cases ht
      · obtain ⟨child, -, ht⟩ := Option.bind_eq_some_iff.mp ht
        obtain rfl := Option.some.inj ht
        exact nodup_put h key _
    · split at ht
      · obtain ⟨child, -, ht⟩ := Option.bind_eq_some_iff.mp ht
        obtain rfl := Option.some.inj ht
        exact nodup_put h key _
      · cases ht
    · cases ht

theorem Distinct.insert {inline : Bool} {path : List String} {key : String} {v : Value}
    (h : t.Distinct) (ht : t.insert inline path key v = some t') : t'.Distinct := by
  refine h.alter (fun {t t'} h ht => ?_) ht
  split at ht
  · cases ht
  · rename_i refused
    simp only [Bool.or_eq_true, not_or, Option.not_isSome_iff_eq_none] at refused
    obtain rfl := Option.some.inj ht
    rw [Distinct, keys, List.map_append, List.map_singleton, ← List.concat_eq_append]
    exact h.concat (not_mem_keys_iff.mpr refused.2)

end Table

structure Draft.Distinct (d : Draft) : Prop where
  root : d.root.Distinct
  current : d.path = [] → d.current.Distinct

namespace Draft.Distinct

variable {d d' : Draft}

theorem empty : Draft.Distinct {} := ⟨List.nodup_nil, fun _ => List.nodup_nil⟩

theorem close (h : d.Distinct) {t : Table} (ht : d.close = some t) : t.Distinct := by
  unfold Draft.close at ht
  split at ht
  · rename_i last
    obtain rfl := Option.some.inj ht
    exact h.current (List.getLast?_eq_none_iff.mp last)
  · refine h.root.alter (fun {t t'} h ht => ?_) ht
    split at ht
    · split at ht
      · obtain rfl := Option.some.inj ht
        exact Table.nodup_put h _ _
      · cases ht
    · obtain rfl := Option.some.inj ht
      exact Table.nodup_put h _ _

theorem of_header {root current : Table} {path : List String} {key : String} {isElement : Bool}
    (h : root.Distinct) (hp : path.getLast? = some key) :
    Draft.Distinct { root, current, path, isElement } := by
  refine ⟨h, fun empty => ?_⟩
  rw [show path = [] from empty] at hp
  cases hp

theorem openTable {path : List String} (h : d.Distinct) (hd : d.openTable path = some d') :
    d'.Distinct := by
  unfold Draft.openTable at hd
  obtain ⟨root, closed, hd⟩ := Option.bind_eq_some_iff.mp hd
  obtain ⟨key, last, hd⟩ := Option.bind_eq_some_iff.mp hd
  obtain ⟨found, -, hd⟩ := Option.bind_eq_some_iff.mp hd
  split at hd
  · obtain rfl := Option.some.inj hd
    exact of_header (h.close closed) last
  · split at hd
    · obtain ⟨root', altered, hd⟩ := Option.bind_eq_some_iff.mp hd
      obtain rfl := Option.some.inj hd
      refine of_header ((h.close closed).alter (fun {t t'} h ht => ?_) altered) last
      obtain rfl := Option.some.inj ht
      exact h.sublist (List.filter_sublist.map _)
    · cases hd
  · cases hd

theorem openElement {path : List String} (h : d.Distinct) (hd : d.openElement path = some d') :
    d'.Distinct := by
  unfold Draft.openElement at hd
  obtain ⟨root, closed, hd⟩ := Option.bind_eq_some_iff.mp hd
  obtain ⟨key, last, hd⟩ := Option.bind_eq_some_iff.mp hd
  obtain ⟨root', altered, hd⟩ := Option.bind_eq_some_iff.mp hd
  obtain rfl := Option.some.inj hd
  refine of_header ((h.close closed).alter (fun {t t'} h ht => ?_) altered) last
  split at ht
  · obtain rfl := Option.some.inj ht
    exact Table.nodup_put h _ _
  · cases ht

theorem addPair {ks : List String} {v : Value} (h : d.Distinct) (hd : d.addPair ks v = some d') :
    d'.Distinct := by
  unfold Draft.addPair at hd
  obtain ⟨key, -, hd⟩ := Option.bind_eq_some_iff.mp hd
  obtain ⟨current, inserted, hd⟩ := Option.bind_eq_some_iff.mp hd
  obtain rfl := Option.some.inj hd
  exact ⟨h.root, fun empty => (h.current empty).insert inserted⟩

theorem header {cs rest : List Char} (h : d.Distinct) (hd : header d cs = some (d', rest)) :
    d'.Distinct := by
  unfold Toml.header at hd
  split at hd
  · simp only [bind, Option.bind_eq_some_iff, pure, Option.some.injEq, Prod.mk.injEq] at hd
    obtain ⟨_, -, _, -, _, -, _, -, _, hd, rfl, -⟩ := hd
    exact h.openElement hd
  · simp only [bind, Option.bind_eq_some_iff, pure, Option.some.injEq, Prod.mk.injEq] at hd
    obtain ⟨_, -, _, -, _, -, _, hd, rfl, -⟩ := hd
    exact h.openTable hd

theorem pair {cs rest : List Char} (h : d.Distinct) (hd : pair d cs = some (d', rest)) :
    d'.Distinct := by
  unfold Toml.pair at hd
  simp only [bind, Option.bind_eq_some_iff, pure, Option.some.injEq, Prod.mk.injEq] at hd
  obtain ⟨_, -, _, -, _, -, _, hd, _, -, rfl, -⟩ := hd
  exact h.addPair hd

theorem lines {fuel : Nat} {cs : List Char} (h : d.Distinct) (hd : lines fuel d cs = some d') :
    d'.Distinct := by
  induction fuel generalizing d cs with
  | zero => cases hd
  | succ fuel ih =>
    unfold Toml.lines at hd
    split at hd
    · obtain rfl := Option.some.inj hd
      exact h
    · obtain ⟨⟨d₁, rest⟩, headed, hd⟩ := Option.bind_eq_some_iff.mp hd
      exact ih (h.header headed) hd
    · split at hd
      · exact ih h hd
      · split at hd
        · cases hd
        · obtain ⟨⟨d₁, rest⟩, paired, hd⟩ := Option.bind_eq_some_iff.mp hd
          exact ih (h.pair paired) hd

end Draft.Distinct

theorem nodup_keys_of_parse {text : String} {items : List (String × Value)}
    (h : parse text = some items) : (keys items).Nodup := by
  unfold parse at h
  obtain ⟨d, read, h⟩ := Option.bind_eq_some_iff.mp h
  obtain ⟨root, closed, h⟩ := Option.bind_eq_some_iff.mp h
  obtain rfl := Option.some.inj h
  exact (Draft.Distinct.empty.lines read).close closed

end ForumDigest.Toml
