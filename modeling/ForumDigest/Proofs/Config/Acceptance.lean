import ForumDigest.Config.Load
import ForumDigest.Proofs.Config.Normal
import ForumDigest.Proofs.Toml.Reader

namespace ForumDigest.Configuration

open Toml

def entries? (items : List (String × Value)) : Option (List Value) :=
  match items.lookup "subreddits" with
  | none => some []
  | some v => v.elements?

/-- The text is a document whose entries hold these subscriptions, in this order. -/
def Holds (text : String) (ss : List Subscription) : Prop :=
  ∃ items vs, Toml.parse text = some items ∧ entries? items = some vs ∧
    List.Forall₂ (fun v s => Subscription.ofToml v = .ok s) vs ss

/-- What the reading of a text comes to. -/
inductive Parses (text : String) : Except ConfigFault Configuration → Prop where
  | unreadable {e : Toml.Error} (unread : ofToml text = .error e)
      (nothing : ∀ ss, ¬ Holds text ss) : Parses text (.error (.unreadable e))
  | refused {before after : List Subscription} {s : Subscription} {r : Refusal}
      (held : Holds text (before ++ s :: after))
      (valid : ∀ t ∈ before, ∃ t', t.Normalizes t' ∧ t'.Normal) (refuses : s.Refuses r) :
      Parses text (.error (.refused r))
  | accepted {ss : List Subscription} {c : Configuration} (held : Holds text ss)
      (normalized : List.Forall₂ Subscription.Normalizes ss c.subscriptions)
      (normal : ∀ s ∈ c.subscriptions, s.Normal) : Parses text (.ok c)

variable {text : String} {c : Configuration}

theorem readItems_eq_ok_iff {items : List (String × Value)} (h : (Toml.keys items).Nodup) :
    readItems keys {} items = .ok c ↔ ∃ vs, entries? items = some vs ∧
      List.Forall₂ (fun v s => Subscription.ofToml v = .ok s) vs c.subscriptions := by
  have single : readItems keys {} items =
      (items.lookup "subreddits").elim (.ok {}) fun v =>
        (readList Subscription.ofToml v).map Configuration.mk := by
    rw [keys, readItems_single h]
    rfl
  obtain ⟨ss⟩ := c
  rw [single, entries?]
  cases items.lookup "subreddits" with
  | none => simp [eq_comm]
  | some v =>
    rw [← readList_eq_ok_iff]
    dsimp only [Option.elim_some]
    cases readList Subscription.ofToml v with
    | error e => simp [Except.map]
    | ok as => simp [Except.map]

theorem ofToml_eq_ok_iff : ofToml text = .ok c ↔ Holds text c.subscriptions := by
  unfold ofToml Toml.decode Holds
  cases hp : Toml.parse text with
  | none => simp
  | some items =>
    have read := readItems_eq_ok_iff (c := c) (nodup_keys_of_parse hp)
    simp only [Option.some.injEq, exists_and_left, exists_eq_left']
    rw [← read]
    cases readItems keys {} items <;> simp [Except.mapError]

theorem not_holds_of_ofToml {e : Toml.Error} (h : ofToml text = .error e) (ss : List Subscription) :
    ¬ Holds text ss := by
  intro held
  have read := ofToml_eq_ok_iff.mpr (show Holds text (Configuration.mk ss).subscriptions from held)
  rw [h] at read
  cases read

theorem accepted_eq_ok_iff {d : Configuration} :
    d.accepted = .ok c ↔ List.Forall₂ Subscription.Normalizes d.subscriptions c.subscriptions ∧
      ∀ s ∈ c.subscriptions, s.Normal := by
  have each : d.accepted = .ok c ↔
      List.Forall₂ (fun s s' => s.accepted = .ok s') d.subscriptions c.subscriptions := by
    rw [← mapM_eq_ok_iff, accepted]
    obtain ⟨ss⟩ := c
    cases d.subscriptions.mapM Subscription.accepted <;> simp [Except.map]
  simp only [each, Subscription.accepted_eq_ok_iff]
  constructor
  · intro h
    refine ⟨h.imp fun _ _ => And.left, ?_⟩
    exact ((List.forall₂_and_left _ _).mp (h.imp fun _ _ => And.symm).flip).1
  · rintro ⟨normalized, normal⟩
    exact ((List.forall₂_and_left _ _).mpr ⟨normal, normalized.flip⟩).flip.imp fun _ _ => And.symm

theorem accepted_eq_error_iff {d : Configuration} {r : Refusal} :
    d.accepted = .error r ↔ ∃ before s after, d.subscriptions = before ++ s :: after ∧
      (∀ t ∈ before, ∃ t', t.Normalizes t' ∧ t'.Normal) ∧ s.Refuses r := by
  simp only [← Subscription.accepted_eq_ok_iff, ← Subscription.accepted_eq_error_iff]
  rw [← mapM_eq_error_iff, accepted]
  cases d.subscriptions.mapM Subscription.accepted <;> simp [Except.map]

theorem parse_of_read {d : Configuration} (h : ofToml text = .ok d) :
    parse text = d.accepted.mapError .refused := by
  rw [parse, h]

theorem parse_of_unread {e : Toml.Error} (h : ofToml text = .error e) :
    parse text = .error (.unreadable e) := by
  rw [parse, h]

theorem parses (text : String) : Parses text (parse text) := by
  cases read : ofToml text with
  | error e =>
    rw [parse_of_unread read]
    exact .unreadable read (not_holds_of_ofToml read)
  | ok d =>
    have held := ofToml_eq_ok_iff.mp read
    rw [parse_of_read read]
    cases taken : d.accepted with
    | ok c =>
      obtain ⟨normalized, normal⟩ := accepted_eq_ok_iff.mp taken
      exact .accepted held normalized normal
    | error r =>
      obtain ⟨before, s, after, split, valid, refuses⟩ := accepted_eq_error_iff.mp taken
      exact .refused (split ▸ held) valid refuses

/-- A text is read in one way: it holds no entries, its first entry that cannot be kept is the
reason to refuse it, or its entries are kept in order and normalized. -/
theorem parse_eq_iff (text : String) (x : Except ConfigFault Configuration) :
    parse text = x ↔ Parses text x := by
  constructor
  · rintro rfl
    exact parses text
  · intro h
    cases h with
    | unreadable unread => exact parse_of_unread unread
    | @refused before after s r held valid refuses =>
      have read := ofToml_eq_ok_iff (c := ⟨before ++ s :: after⟩).mpr held
      have taken := accepted_eq_error_iff (d := ⟨before ++ s :: after⟩).mpr
        ⟨before, s, after, rfl, valid, refuses⟩
      rw [parse_of_read read, taken]
      rfl
    | @accepted ss c held normalized normal =>
      have read := ofToml_eq_ok_iff (c := ⟨ss⟩).mpr held
      have taken := accepted_eq_ok_iff (d := ⟨ss⟩).mpr ⟨normalized, normal⟩
      rw [parse_of_read read, taken]
      rfl

end ForumDigest.Configuration
