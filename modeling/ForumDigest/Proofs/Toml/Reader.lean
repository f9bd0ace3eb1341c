import ForumDigest.Proofs.Toml.Keys
import ForumDigest.Toml.Decode
import Mathlib.Data.List.Forall2

namespace ForumDigest

section Sequence

variable {α β ε : Type} {f : α → Except ε β}

theorem mapM_eq_ok_iff {xs : List α} {ys : List β} :
    xs.mapM f = .ok ys ↔ List.Forall₂ (fun x y => f x = .ok y) xs ys := by
  induction xs generalizing ys with
  | nil =>
    rw [List.mapM_nil, List.forall₂_nil_left_iff]
    exact ⟨fun h => (Except.ok.inj h).symm, fun h => h ▸ rfl⟩
  | cons x xs ih =>
    rw [List.mapM_cons, List.forall₂_cons_left_iff]
    cases hx : f x with
    | error e => simp [bind, Except.bind]
    | ok y =>
      cases hr : xs.mapM f with
      | error e => simp [bind, Except.bind, ← ih, hr]
      | ok zs =>
        simp only [bind, Except.bind, pure, Except.pure, Except.ok.injEq, ← ih, hr]
        exact ⟨fun h => ⟨y, zs, rfl, rfl, h.symm⟩, by rintro ⟨_, _, rfl, rfl, rfl⟩; rfl⟩

theorem mapM_eq_error_iff {xs : List α} {e : ε} :
    xs.mapM f = .error e ↔ ∃ before x after, xs = before ++ x :: after ∧
      (∀ y ∈ before, ∃ z, f y = .ok z) ∧ f x = .error e := by
  induction xs with
  | nil => simp [pure, Except.pure]
  | cons x xs ih =>
    rw [List.mapM_cons]
    cases hx : f x with
    | error d =>
      change Except.error d = Except.error e ↔ _
      constructor
      · intro h
        obtain rfl := Except.error.inj h
        exact ⟨[], x, xs, rfl, by simp, hx⟩
      · rintro ⟨_ | ⟨y, before⟩, z, after, split, good, bad⟩
        · obtain ⟨rfl, -⟩ := List.cons.inj split
          rw [hx] at bad
          exact congrArg Except.error (Except.error.inj bad)
        · obtain ⟨rfl, -⟩ := List.cons.inj split
          obtain ⟨w, hw⟩ := good x List.mem_cons_self
          rw [hx] at hw
          cases hw
    | ok y =>
      have rest : (do let ys ← xs.mapM f; pure (y :: ys)) = .error e ↔ xs.mapM f = .error e := by
        cases xs.mapM f <;> simp [bind, Except.bind, pure, Except.pure]
      change (do let ys ← xs.mapM f; pure (y :: ys)) = .error e ↔ _
      rw [rest, ih]
      constructor
      · rintro ⟨before, z, after, rfl, good, bad⟩
        exact ⟨x :: before, z, after, rfl, List.forall_mem_cons.mpr ⟨⟨y, hx⟩, good⟩, bad⟩
      · rintro ⟨_ | ⟨w, before⟩, z, after, split, good, bad⟩
        · obtain ⟨rfl, -⟩ := List.cons.inj split
          rw [hx] at bad
          cases bad
        · obtain ⟨rfl, rfl⟩ := List.cons.inj split
          exact ⟨before, z, after, rfl, fun v hv => good v (List.mem_cons_of_mem _ hv), bad⟩

end Sequence

namespace Toml

def Value.elements? : Value → Option (List Value)
  | .array vs | .tables vs => some vs
  | _ => none

theorem readList_eq_ok_iff {α : Type} {r : Reader α} {v : Value} {as : List α} :
    readList r v = .ok as ↔
      ∃ vs, v.elements? = some vs ∧ List.Forall₂ (fun v a => r v = .ok a) vs as := by
  have read (vs : List Value) : vs.mapM r = .ok as ↔
      ∃ ws, some vs = some ws ∧ List.Forall₂ (fun v a => r v = .ok a) ws as := by
    simp only [Option.some.injEq, exists_eq_left']
    exact mapM_eq_ok_iff
  cases v with
  | array vs => exact read vs
  | tables vs => exact read vs
  | string | integer | float | boolean | datetime | table =>
    simp [readList, invalidType, Value.elements?]

variable {σ : Type} {f : RecordField σ}

theorem readItems_cons (fields : List (RecordField σ)) (s : σ) (item : String × Value)
    (items : List (String × Value)) :
    readItems fields s (item :: items) =
      (readItem fields s item).bind fun s => readItems fields s items := rfl

theorem readItems_single {items : List (String × Value)} (h : (keys items).Nodup) (s : σ) :
    readItems [f] s items = (items.lookup f.name).elim (.ok s) (f.read s) := by
  induction items generalizing s with
  | nil => rfl
  | cons item items ih =>
    obtain ⟨k, v⟩ := item
    rw [keys, List.map_cons, List.nodup_cons] at h
    obtain ⟨missing, distinct⟩ := h
    rw [readItems_cons, List.lookup_cons]
    by_cases hk : f.name = k
    · have gone : items.lookup f.name = none := not_mem_keys_iff.mp (hk ▸ missing)
      have rest (s : σ) : readItems [f] s items = .ok s := by
        rw [ih distinct, gone]
        rfl
      have head : readItem [f] s (k, v) = f.read s v := by simp [readItem, hk]
      simp only [head, rest, hk, beq_self_eq_true]
      exact bind_pure (m := Except String) (f.read s v)
    · have head : readItem [f] s (k, v) = .ok s := by simp [readItem, hk]
      have apart : (f.name == k) = false := beq_eq_false_iff_ne.mpr hk
      simp only [head, Except.bind, apart, ih distinct]

end Toml

end ForumDigest
