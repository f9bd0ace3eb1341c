import ForumDigest.Endpoints
import ForumDigest.Proofs.Url.Form
import ForumDigest.Proofs.Url.Web
import ForumDigest.Query
import Mathlib.Data.Bool.AllAny

namespace ForumDigest

open Url Url.Percent

theorem plain_publicHost : Plain "reddit.com".toList where
  unended := List.all_iff_forall_prop.mp (by decide)
  visible := List.all_iff_forall_prop.mp (by decide)
  parsed := by decide +kernel

theorem plain_oauthHost : Plain "oauth.reddit.com".toList where
  unended := List.all_iff_forall_prop.mp (by decide)
  visible := List.all_iff_forall_prop.mp (by decide)
  parsed := by decide +kernel

/-- A base on which listings are read unless another one is given. -/
def Endpoints.IsUsualBase (base : String) : Prop :=
  base = ({} : Endpoints).publicBase ∨ base = ({} : Endpoints).oauthBase

theorem Endpoints.IsUsualBase.host {base : String} (h : IsUsualBase base) :
    ∃ host : String, Plain host.toList ∧ base = String.ofList (start host.toList) := by
  obtain rfl | rfl := h
  · exact ⟨"reddit.com", plain_publicHost, by decide⟩
  · exact ⟨"oauth.reddit.com", plain_oauthHost, by decide⟩

theorem not_inSpecialQuery_of_isFormChar {c : Char} (h : Form.isFormChar c = true) :
    inSpecialQuery c = false :=
  of_ascii (p := fun c => Form.isFormChar c = true → inSpecialQuery c = false) (by decide)
    (Form.toNat_lt_of_isFormChar h) h

theorem not_inSpecialQuery_of_mem_append {c : Char} {query : List Char} {pair : String × String}
    (hq : ∀ d ∈ query, inSpecialQuery d = false) (h : c ∈ Form.append query pair) :
    inSpecialQuery c = false :=
  (Form.mem_append h).elim (hq c) not_inSpecialQuery_of_isFormChar

namespace Query

def queryWith (query : Option String) (pair : String × String) : Option String :=
  some (String.ofList (Form.append (query.getD "").toList pair))

theorem foldl_withPair (u : Url) (pairs : List (String × String)) :
    pairs.foldl Url.withPair u = { u with query := pairs.foldl queryWith u.query } := by
  induction pairs generalizing u with
  | nil => rfl
  | cons pair pairs ih => exact ih (u.withPair pair)

theorem encoded_foldl_queryWith {segments : List String} {query fragment : Option String}
    (h : Encoded segments query fragment) (pairs : List (String × String)) :
    Encoded segments (pairs.foldl queryWith query) fragment := by
  induction pairs generalizing query with
  | nil => exact h
  | cons pair pairs ih =>
    refine ih { h with query := ?_ }
    rintro _ ⟨⟩ c hc
    rw [String.toList_ofList] at hc
    refine not_inSpecialQuery_of_mem_append (fun d hd => ?_) hc
    cases query with
    | none => cases hd
    | some q => exact h.query q rfl d hd

def place (q : Query) : List Char :=
  match q.search with
  | some _ => "search.json".toList
  | none => 'r' :: '/' :: (q.subreddit.toList ++ '/' :: (q.sortBy.name ++ ".json").toList)

theorem location_eq (host : List Char) (q : Query) :
    q.location (String.ofList (start host)) = String.ofList (start host ++ '/' :: q.place) := by
  apply String.toList_injective
  unfold location place
  cases q.search <;> simp [start]

theorem getLast?_place (q : Query) : q.place.getLast? = some 'n' := by
  unfold place
  cases q.search <;> simp [List.getLast?_append, List.getLast?_cons]

def parts (q : Query) : Cut := cut (q.place.filter isKept)

def ownQuery (q : Query) : Option String :=
  q.parts.query.map fun cs => String.ofList (encode inSpecialQuery cs)

def ownFragment (q : Query) : Option String :=
  q.parts.fragment.map fun cs => String.ofList (encode inFragment cs)

def pairs (q : Query) : List (String × String) :=
  (q.search.map q.searchPairs).getD [] ++ q.periodPairs

theorem listingUrl_eq {host : String} (hh : Plain host.toList) (q : Query) :
    q.listingUrl (String.ofList (start host.toList)) =
      .ok (web host (segments .web q.parts.head) (q.pairs.foldl queryWith q.ownQuery)
        q.ownFragment) := by
  have last : ∀ c ∈ q.place.getLast?, isTrimmed c = false := by
    rw [getLast?_place]
    rintro _ ⟨⟩
    decide
  have located := parse_web hh last
  rw [String.ofList_toList] at located
  unfold listingUrl
  rw [location_eq, located]
  exact congrArg Except.ok (foldl_withPair _ _)

theorem encoded_listingUrl (q : Query) :
    Encoded (segments .web q.parts.head) (q.pairs.foldl queryWith q.ownQuery)
      q.ownFragment := by
  refine encoded_foldl_queryWith ⟨segments_ne_nil _, fun _ => settled_of_mem_segments, ?_, ?_⟩ _
  · intro s hs c hc
    obtain ⟨cs, -, rfl⟩ := Option.map_eq_some_iff.mp hs
    rw [String.toList_ofList] at hc
    exact unreserved_of_mem_encode sparing_inSpecialQuery hc
  · intro s hs c hc
    obtain ⟨cs, -, rfl⟩ := Option.map_eq_some_iff.mp hs
    rw [String.toList_ofList] at hc
    exact unreserved_of_mem_encode sparing_inFragment hc

end Query

end ForumDigest
