import ForumDigest.Post.Engagement
import ForumDigest.Proofs.Binary64.Order
import Mathlib.Data.List.Sort

namespace ForumDigest

namespace Post

def outranks (p q : Post) : Bool := decide (q.engagement.rank ≤ p.engagement.rank)

theorem outranks_trans (p q r : Post) (hpq : p.outranks q) (hqr : q.outranks r) : p.outranks r := by
  simp only [outranks, decide_eq_true_iff] at hpq hqr ⊢
  exact hqr.trans hpq

theorem outranks_total (p q : Post) : p.outranks q || q.outranks p := by
  simp only [outranks, Bool.or_eq_true, decide_eq_true_iff]
  exact le_total _ _

theorem sortByEngagement_perm (ps : List Post) : (sortByEngagement ps).Perm ps :=
  ps.mergeSort_perm outranks

theorem pairwise_sortByEngagement (ps : List Post) :
    (sortByEngagement ps).Pairwise fun p q => q.engagement.rank ≤ p.engagement.rank := by
  have h := List.pairwise_mergeSort outranks_trans outranks_total ps
  exact h.imp fun hpq => of_decide_eq_true hpq

theorem filter_sortByEngagement (x : Binary64) (ps : List Post) :
    (sortByEngagement ps).filter (·.engagement = x) = ps.filter (·.engagement = x) := by
  have alike : (ps.filter (·.engagement = x)).Pairwise (outranks · ·) := by
    refine List.pairwise_of_forall_mem_list fun p hp q hq => ?_
    simp only [List.mem_filter, decide_eq_true_iff] at hp hq
    simp [outranks, hp.2, hq.2]
  -- They are in order, so sorting keeps them as a sublist, and it keeps their number.
  have kept := (List.sublist_mergeSort outranks_trans outranks_total alike
    List.filter_sublist).filter (·.engagement = x)
  rw [List.filter_filter] at kept
  simp only [Bool.and_self] at kept
  exact (kept.eq_of_length ((ps.mergeSort_perm outranks).filter _).length_eq.symm).symm

structure Descending (ps qs : List Post) : Prop where
  perm : qs.Perm ps
  descending : qs.Pairwise fun p q => q.engagement.Precedes p.engagement
  stable : ∀ x : Binary64, qs.filter (·.engagement = x) = ps.filter (·.engagement = x)

variable {ps qs : List Post}

theorem Descending.pairwise (h : Descending ps qs) :
    qs.Pairwise fun p q => q.engagement.rank ≤ p.engagement.rank :=
  h.descending.imp Binary64.precedes_iff.mp

theorem descending_sortByEngagement (ps : List Post) : Descending ps (sortByEngagement ps) where
  perm := sortByEngagement_perm ps
  descending := (pairwise_sortByEngagement ps).imp Binary64.precedes_iff.mpr
  stable x := filter_sortByEngagement x ps

theorem mem_of_filter_eq (h : ∀ x : Binary64,
    qs.filter (·.engagement = x) = ps.filter (·.engagement = x)) {p : Post} (hp : p ∈ qs) :
    p ∈ ps := by
  have found : p ∈ qs.filter (·.engagement = p.engagement) := List.mem_filter.mpr ⟨hp, by simp⟩
  rw [h] at found
  exact (List.mem_filter.mp found).1

/-- Descending lists with the same posts of each engagement begin with the same post, and so on. -/
theorem eq_of_filter_eq (hp : ps.Pairwise fun p q => q.engagement.rank ≤ p.engagement.rank)
    (hq : qs.Pairwise fun p q => q.engagement.rank ≤ p.engagement.rank)
    (h : ∀ x : Binary64, qs.filter (·.engagement = x) = ps.filter (·.engagement = x)) : qs = ps := by
  induction ps generalizing qs with
  | nil =>
    refine List.eq_nil_iff_forall_not_mem.mpr fun q mem => ?_
    cases mem_of_filter_eq h mem
  | cons p ps ih =>
    cases qs with
    | nil => cases mem_of_filter_eq (fun x => (h x).symm) List.mem_cons_self
    | cons q qs =>
      rw [List.pairwise_cons] at hp hq
      have le : q.engagement.rank ≤ p.engagement.rank := by
        obtain rfl | mem := List.mem_cons.mp (mem_of_filter_eq h List.mem_cons_self)
        · exact le_rfl
        · exact hp.1 q mem
      have ge : p.engagement.rank ≤ q.engagement.rank := by
        obtain rfl | mem := List.mem_cons.mp
          (mem_of_filter_eq (fun x => (h x).symm) List.mem_cons_self)
        · exact le_rfl
        · exact hq.1 p mem
      have tied : q.engagement = p.engagement := Binary64.rank_injective (le_antisymm le ge)
      obtain rfl : q = p := by
        have first := h q.engagement
        rw [List.filter_cons_of_pos (by simp), List.filter_cons_of_pos (by simp [tied])] at first
        exact (List.cons.inj first).1
      refine congrArg (q :: ·) (ih hp.2 hq.2 fun x => ?_)
      have rest := h x
      by_cases hx : q.engagement = x
      · rw [List.filter_cons_of_pos (by simp [hx]), List.filter_cons_of_pos (by simp [hx])] at rest
        exact (List.cons.inj rest).2
      · rwa [List.filter_cons_of_neg (by simp [hx]), List.filter_cons_of_neg (by simp [hx])] at rest

/-- Sorting gives the one list that has the posts in descending order, with those of equal engagement
as they stood; what is sorted stays so. -/
theorem sortByEngagement_unique (ps : List Post) :
    (∀ qs, Descending ps qs ↔ qs = sortByEngagement ps) ∧
      sortByEngagement (sortByEngagement ps) = sortByEngagement ps := by
  have sorted := descending_sortByEngagement ps
  have again := descending_sortByEngagement (sortByEngagement ps)
  refine ⟨fun qs => ⟨fun h => ?_, fun h => h ▸ sorted⟩, ?_⟩
  · exact eq_of_filter_eq sorted.pairwise h.pairwise fun x => (h.stable x).trans (sorted.stable x).symm
  · exact eq_of_filter_eq sorted.pairwise again.pairwise again.stable

end Post

end ForumDigest
