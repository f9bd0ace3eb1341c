import ForumDigest.Listing.Json
import ForumDigest.Proofs.Json.Null
import Mathlib.Data.Bool.AllAny
import Mathlib.Data.List.Nodup

namespace ForumDigest

open Json Nulling

def Json.names {σ : Type} (fields : List (RecordField σ)) : List String :=
  fields.map RecordField.name

def Parent.Nulled : Nulling :=
  InRecord (names Parent.fields) (names Parent.fields) fun _ => Same

def Submission.Nulled : Nulling :=
  InRecord (names Submission.fields) (names Submission.fields)
    (Within "crosspost_parent_list" (InArray Parent.Nulled))

def ListingEntry.Nulled : Nulling :=
  InRecord (names ListingEntry.fields) [] (Within "data" Submission.Nulled)

def ListingPage.Nulled : Nulling :=
  InRecord (names ListingPage.fields) [] (Within "children" (InArray ListingEntry.Nulled))

def Listing.Nulled : Nulling := InRecord (names Listing.fields) [] (Within "data" ListingPage.Nulled)

/-- The names of fields that are null in the text of a listing, the text, and the text without
them. -/
inductive Listing.NulledText : List String → String → String → Prop where
  | intro {names : List String} {b c b' c' v w : List Char} (hb : Blank b) (hc : Blank c)
    (hb' : Blank b') (hc' : Blank c') (h : Listing.Nulled names v w) :
    NulledText names (String.ofList (b ++ (v ++ c))) (String.ofList (b' ++ (w ++ c')))

/-- The fields that may be null. -/
def Submission.optional : List String := ["thumbnail", "link_flair_text", "crosspost_parent_list"]

section

variable {σ α β : Type} {name name' : String} {need need' : Need} {r : Reader α} {r' : Reader β}
  {store : σ → α → σ} {store' : σ → β → σ}

theorem value_field (s : σ) (val : List Char) :
    ((RecordField.of name need r store).read s).value val = (r.value val).map (store s) :=
  value_map r (store s) val

theorem exists_of_value_field {s s' : σ} {val : List Char}
    (h : ((RecordField.of name need r store).read s).value val = .ok s') : ∃ a, store s a = s' := by
  rw [value_field] at h
  obtain ⟨a, -, ha⟩ := exists_of_map_ok h
  exact ⟨a, ha⟩

theorem idle_option {store : σ → Option α → σ} {s : σ} :
    Idle (.of name need (readOption r) store) s ↔ store s none = s := by
  have null : (readOption r).value ['n', 'u', 'l', 'l'] = .ok none := rfl
  rw [Idle, value_field, null]
  exact ⟨Except.ok.inj, congrArg _⟩

theorem idle_of_read {store : σ → Option α → σ}
    (commute : ∀ s b, store (store' s b) none = store' (store s none) b) {s s' : σ} {val : List Char}
    (read : ((RecordField.of name' need' r' store').read s).value val = .ok s')
    (h : Idle (.of name need (readOption r) store) s) :
    Idle (.of name need (readOption r) store) s' := by
  obtain ⟨b, rfl⟩ := exists_of_value_field read
  rw [idle_option] at h ⊢
  rw [commute, h]

theorem refuses_null {kind : String}
    (h : r.value ['n', 'u', 'l', 'l'] = .error (.invalidType "null" kind)) (s : σ) :
    ∃ kind, ((RecordField.of name need r store).read s).value ['n', 'u', 'l', 'l'] =
      .error (.invalidType "null" kind) :=
  ⟨kind, by rw [value_field, h]; rfl⟩

end

namespace Parent

theorem exact_fields : ExactFields fields :=
  .cons exact_readString <| .cons exact_readString <| .cons exact_readString .nil

theorem sound_nulled : Sound Parent.Nulled := sound_inRecord fun _ => sound_same

theorem forgiving : Forgiving Submission.optional (names fields) fields {} fun _ => Same where
  exact := exact_fields
  sound _ := sound_same
  tolerates f _ s := tolerates_same (f.read s)
  foreign _ h := by
    cases h
    rfl
  known n hn := by simpa [names] using hn
  refuses f hf _ _ s := by
    simp only [fields, List.mem_cons, List.not_mem_nil, or_false] at hf
    obtain rfl | rfl | rfl := hf <;> exact refuses_null rfl s
  idle f hf _ free := by
    simp only [fields, List.mem_cons, List.not_mem_nil, or_false] at hf
    obtain rfl | rfl | rfl := hf <;> exact absurd free (by decide)
  keeps f hf _ free := by
    simp only [fields, List.mem_cons, List.not_mem_nil, or_false] at hf
    obtain rfl | rfl | rfl := hf <;> exact absurd free (by decide)

theorem tolerates : Tolerates Submission.optional Parent.read Parent.Nulled :=
  Forgiving.tolerates_record forgiving "CrosspostParent"

theorem exact_read : Parent.read.Exact := exact_readRecord exact_fields _ _

end Parent

namespace Submission

theorem exact_fields : ExactFields fields :=
  .cons exact_readString <| .cons exact_readString <| .cons exact_readInt32 <|
  .cons exact_readString <| .cons exact_readReal <| .cons exact_readUInt32 <|
  .cons exact_readString <| .cons exact_readString <| .cons exact_readBool <|
  .cons exact_readBool <| .cons exact_readBool <| .cons exact_readString.option <|
  .cons exact_readString.option <| .cons (exact_readList Parent.exact_read).option .nil

theorem sound_nulled : Sound Submission.Nulled :=
  sound_inRecord (sound_within (sound_inArray Parent.sound_nulled) _)

theorem eq_of_name {f g : RecordField Submission} (hf : f ∈ fields) (hg : g ∈ fields)
    (h : f.name = g.name) : f = g :=
  List.inj_on_of_nodup_map (show (fields.map RecordField.name).Nodup by decide) hf hg h

theorem eq_of_optional {f : RecordField Submission} (hf : f ∈ fields) (free : f.name ∈ optional) :
    f = .of "thumbnail" .nowhere (readOption readString) (fun s a => { s with thumbnail := a }) ∨
    f = .of "link_flair_text" .nowhere (readOption readString)
      (fun s a => { s with linkFlairText := a }) ∨
    f = .of "crosspost_parent_list" .nowhere (readOption (readList Parent.read))
      (fun s a => { s with crosspostParents := a }) := by
  simp only [optional, List.mem_cons, List.not_mem_nil, or_false] at free
  obtain h | h | h := free
  · exact .inl (eq_of_name hf (by simp [fields]) h)
  · exact .inr (.inl (eq_of_name hf (by simp [fields]) h))
  · exact .inr (.inr (eq_of_name hf (by simp [fields]) h))

theorem forgiving : Forgiving optional (names fields) fields {}
    (Within "crosspost_parent_list" (InArray Parent.Nulled)) where
  exact := exact_fields
  sound := sound_within (sound_inArray Parent.sound_nulled) _
  tolerates f hf s := tolerates_within fun hn => by
    have parents : f = .of "crosspost_parent_list" .nowhere (readOption (readList Parent.read))
        (fun s a => { s with crosspostParents := a }) :=
      eq_of_name hf (by simp [fields]) hn
    rw [parents]
    exact ((tolerates_array Parent.exact_read Parent.sound_nulled Parent.tolerates).option).map _
  foreign := foreign_within (by simp [fields, RecordField.of])
  known n hn := by simpa [names] using hn
  refuses f hf _ strict s := by
    simp only [fields, List.mem_cons, List.not_mem_nil, or_false] at hf
    obtain rfl | rfl | rfl | rfl | rfl | rfl | rfl | rfl | rfl | rfl | rfl | rfl | rfl | rfl := hf
    all_goals first
      | exact refuses_null rfl s
      | simp [RecordField.of, optional] at strict
  idle f hf _ free := by
    obtain rfl | rfl | rfl := eq_of_optional hf free <;> exact idle_option.mpr rfl
  -- Different fields are stored in different places, so null may as well be stored first.
  keeps f hf _ free g hg apart s s' val read idle := by
    simp only [fields, List.mem_cons, List.not_mem_nil, or_false] at hg
    obtain rfl | rfl | rfl := eq_of_optional hf free
    all_goals
      obtain rfl | rfl | rfl | rfl | rfl | rfl | rfl | rfl | rfl | rfl | rfl | rfl | rfl | rfl := hg
      all_goals first
        | exact idle_of_read (fun _ _ => rfl) read idle
        | exact absurd rfl apart

theorem tolerates : Tolerates optional Submission.read Submission.Nulled :=
  Forgiving.tolerates_record forgiving "RedditPostData"

theorem exact_read : Submission.read.Exact := exact_readRecord exact_fields _ _

end Submission

namespace ListingEntry

theorem exact_fields : ExactFields fields :=
  .cons exact_readString <| .cons Submission.exact_read .nil

theorem sound_nulled : Sound ListingEntry.Nulled :=
  sound_inRecord (sound_within Submission.sound_nulled _)

theorem forgiving : Forgiving Submission.optional [] fields {}
    (Within "data" Submission.Nulled) := by
  refine .within exact_fields Submission.sound_nulled (by simp [fields, RecordField.of]) ?_
  intro f hf hn s
  simp only [fields, List.mem_cons, List.not_mem_nil, or_false] at hf
  obtain rfl | rfl := hf
  · exact absurd hn (by decide)
  · exact Tolerates.map Submission.tolerates _

theorem exact_read : ListingEntry.read.Exact := exact_readRecord exact_fields _ _

theorem tolerates : Tolerates Submission.optional ListingEntry.read ListingEntry.Nulled :=
  Forgiving.tolerates_record forgiving "RedditListingChild"

end ListingEntry

namespace ListingPage

theorem exact_fields : ExactFields fields :=
  .cons (exact_readList ListingEntry.exact_read) <| .cons exact_readString.option <|
  .cons exact_readString.option .nil

theorem sound_nulled : Sound ListingPage.Nulled :=
  sound_inRecord (sound_within (sound_inArray ListingEntry.sound_nulled) _)

theorem forgiving : Forgiving Submission.optional [] fields {}
    (Within "children" (InArray ListingEntry.Nulled)) := by
  refine .within exact_fields (sound_inArray ListingEntry.sound_nulled) (by simp [fields, RecordField.of]) ?_
  intro f hf hn s
  simp only [fields, List.mem_cons, List.not_mem_nil, or_false] at hf
  obtain rfl | rfl | rfl := hf
  · exact (tolerates_array ListingEntry.exact_read ListingEntry.sound_nulled
      ListingEntry.tolerates).map _
  · exact absurd hn (by decide)
  · exact absurd hn (by decide)

theorem exact_read : ListingPage.read.Exact := exact_readRecord exact_fields _ _

theorem tolerates : Tolerates Submission.optional ListingPage.read ListingPage.Nulled :=
  Forgiving.tolerates_record forgiving "RedditListingData"

end ListingPage

namespace Listing

theorem exact_fields : ExactFields fields :=
  .cons exact_readString <| .cons ListingPage.exact_read .nil

theorem sound_nulled : Sound Listing.Nulled :=
  sound_inRecord (sound_within ListingPage.sound_nulled _)

theorem forgiving : Forgiving Submission.optional [] fields {}
    (Within "data" ListingPage.Nulled) := by
  refine .within exact_fields ListingPage.sound_nulled (by simp [fields, RecordField.of]) ?_
  intro f hf hn s
  simp only [fields, List.mem_cons, List.not_mem_nil, or_false] at hf
  obtain rfl | rfl := hf
  · exact absurd hn (by decide)
  · exact Tolerates.map ListingPage.tolerates _

theorem exact_read : Listing.read.Exact := exact_readRecord exact_fields _ _

theorem tolerates : Tolerates Submission.optional Listing.read Listing.Nulled :=
  Forgiving.tolerates_record forgiving "RedditListing"

/-- Where the text without nulls is read, so is the one with them, and as the same listing, exactly
if each of them stands for a field that may be null; else it is refused for a null. -/
theorem ofJson_nulled {names : List String} {v w : String} {l : Listing}
    (h : NulledText names v w) (read : ofJson w = .ok l) :
    (ofJson v = .ok l ↔ ∀ n ∈ names, n ∈ Submission.optional) ∧
      (ofJson v = .ok l ∨ ∃ kind, ofJson v = .error (.invalidType "null" kind)) := by
  obtain ⟨hb, hc, hb', hc', nulled⟩ := h
  obtain ⟨hv, hw⟩ := sound_nulled nulled
  rw [ofJson, decode_value exact_read hb' hw hc'] at read
  have outcome := tolerates nulled read
  rw [ofJson, decode_value exact_read hb hv hc]
  unfold Outcome at outcome
  split at outcome
  · rename_i free
    exact ⟨⟨fun _ => free, fun _ => outcome⟩, .inl outcome⟩
  · rename_i strict
    obtain ⟨kind, refused⟩ := outcome
    refine ⟨⟨fun same => ?_, fun free => absurd free strict⟩, .inr ⟨kind, refused⟩⟩
    rw [refused] at same
    cases same

def single (members : List Member) : List Char :=
  objectText [] [.tight "data" (objectText [] [.tight "children" (arrayText []
    [.tight (objectText [] [.tight "data" (objectText [] members)])])])]

theorem nulling_of_member {fields nullable names : List String} {name : String} {inner : Nulling}
    {v w : List Char} (plain : IsText name.toList)
    (spelled : (string (name.toList ++ ['"'])).map Prod.fst = .ok name.toList)
    (h : inner names v w) :
    InRecord fields nullable (Within name inner) names (objectText [] [.tight name v])
      (objectText [] [.tight name w]) := by
  have whole : InRecord fields nullable (Within name inner) ([] ++ (names ++ []))
      (objectText [] [.tight name v]) (objectText [] [.tight name w]) :=
    .object blank_nil blank_nil
      (.keep (Member.apart_tight plain v) (Member.apart_tight plain w) spelled spelled (.inner h) .nil)
      .nil (by simp)
  simpa using whole

theorem nulledText_single {name : String} (known : name ∈ names Submission.fields) :
    NulledText [name] (String.ofList (single [.tight name writeNull]))
      (String.ofList (single [])) := by
  have plain : ∀ n ∈ "data" :: "children" :: names Submission.fields,
      n.toList.all (fun c => c ≠ '"' ∧ c ≠ '\\' ∧ 0x20 ≤ c.toNat) = true := by
    decide
  have text (n : String) (hn : n ∈ "data" :: "children" :: names Submission.fields) :=
    IsText.of_plain (List.all_iff_forall_prop.mp (plain n hn))
  have spelled : ∀ n ∈ "data" :: "children" :: names Submission.fields,
      (string (n.toList ++ ['"'])).map Prod.fst = .ok n.toList := by
    decide
  have field : name ∈ "data" :: "children" :: names Submission.fields := by simp [known]
  have submission : Submission.Nulled ([name] ++ []) (objectText [] [.tight name writeNull])
      (objectText [] []) :=
    .object blank_nil blank_nil (.null (Member.apart_tight (text name field) _) known
      (spelled name field) rfl .nil) (by simp) (by simp)
  have entry : ListingEntry.Nulled _ _ _ :=
    nulling_of_member (text "data" (by simp)) (spelled "data" (by simp)) submission
  have children : InArray ListingEntry.Nulled ([name] ++ [] ++ []) _ _ :=
    .intro blank_nil blank_nil
      (.cons (Element.apart_tight _) (Element.apart_tight _) entry .nil)
  have page : ListingPage.Nulled _ _ _ :=
    nulling_of_member (text "children" (by simp)) (spelled "children" (by simp)) children
  have listing : Listing.Nulled _ _ _ :=
    nulling_of_member (text "data" (by simp)) (spelled "data" (by simp)) page
  have whole := NulledText.intro blank_nil blank_nil blank_nil blank_nil listing
  simp only [List.append_nil, List.nil_append] at whole
  exact whole

theorem ofJson_nulled_of_thumbnail :
    NulledText ["thumbnail"]
      "\x7b\"data\":\x7b\"children\":[\x7b\"data\":\x7b\"thumbnail\":null\x7d\x7d]\x7d\x7d"
      "\x7b\"data\":\x7b\"children\":[\x7b\"data\":\x7b\x7d\x7d]\x7d\x7d" ∧
    ofJson "\x7b\"data\":\x7b\"children\":[\x7b\"data\":\x7b\"thumbnail\":null\x7d\x7d]\x7d\x7d" =
      .ok { data := { children := [{}] } } := by
  have nulled : NulledText ["thumbnail"] _ _ := nulledText_single (by decide)
  have read : ofJson (String.ofList (single [])) = .ok { data := { children := [{}] } } := by
    decide +kernel
  exact ⟨nulled, (ofJson_nulled nulled read).1.mpr (by decide)⟩

/-- A null title is refused, though the listing is read without it. -/
theorem ofJson_refuses_null_title :
    NulledText ["title"]
      "\x7b\"data\":\x7b\"children\":[\x7b\"data\":\x7b\"title\":null\x7d\x7d]\x7d\x7d"
      "\x7b\"data\":\x7b\"children\":[\x7b\"data\":\x7b\x7d\x7d]\x7d\x7d" ∧
    ofJson "\x7b\"data\":\x7b\"children\":[\x7b\"data\":\x7b\x7d\x7d]\x7d\x7d" =
      .ok { data := { children := [{}] } } ∧
    ofJson "\x7b\"data\":\x7b\"children\":[\x7b\"data\":\x7b\"title\":null\x7d\x7d]\x7d\x7d" =
      .error (.invalidType "null" "a string") :=
  ⟨nulledText_single (by decide), by decide +kernel, by decide +kernel⟩

end Listing

end ForumDigest
