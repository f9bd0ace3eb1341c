import ForumDigest.Post.Engagement
import Mathlib.Data.List.FinRange
import Mathlib.Data.Multiset.Fold

namespace ForumDigest

namespace Post

def unrated (p : Post) : Post := { p with engagement := .zero }

/-- What a post is rated by. -/
def marks (p : Post) : UInt32 × Int32 := (p.commentCount, p.score)

theorem map_unrated_rate (ns : List Post) : (rate ns).map unrated = ns.map unrated := by
  rw [rate, List.map_map]
  rfl

theorem length_rate (ps : List Post) : (rate ps).length = ps.length := by
  rw [rate, List.length_map]

end Post

namespace Engagement

/-- The comments of a list, added up in 64 bits one post after the other. -/
def wordComments (ps : List Post) : UInt64 :=
  ps.foldl (fun n p => n + p.commentCount.toUInt64) 0

def wordScore (ps : List Post) : Int64 := ps.foldl (fun n p => n + p.score.toInt64) 0

/-- Adding up never leaves the 64 bits, and the averages come from the totals. -/
structure Exact (ps : List Post) : Prop where
  comments : ∀ qs, qs <+: ps → (wordComments qs).toNat = totalComments qs
  score : ∀ qs, qs <+: ps → (wordScore qs).toInt = totalScore qs
  averages : averages ps =
    { comments := (wordComments ps).toFloat / (UInt64.ofNat ps.length).toFloat
      score := double (wordScore ps) / (UInt64.ofNat ps.length).toFloat }

def averagesOf (ms : Multiset (UInt32 × Int32)) : Averages :=
  let count := (UInt64.ofNat ms.card).toFloat
  { comments := (UInt64.ofNat ((ms.map (·.1.toNat)).foldr (· + ·) 0)).toFloat / count
    score := double (Int64.ofInt ((ms.map (·.2.toInt)).foldr (· + ·) 0)) / count }

theorem averages_eq (ps : List Post) : averages ps = averagesOf (ps.map Post.marks) := by
  simp only [averagesOf, Multiset.coe_card, Multiset.map_coe, Multiset.coe_foldr, List.map_map,
    List.length_map]
  rfl

variable {ps qs : List Post}

theorem totalComments_cons (p : Post) (ps : List Post) :
    totalComments (p :: ps) = p.commentCount.toNat + totalComments ps := rfl

theorem totalScore_cons (p : Post) (ps : List Post) :
    totalScore (p :: ps) = p.score.toInt + totalScore ps := rfl

theorem totalComments_le (ps : List Post) : totalComments ps ≤ ps.length * 4294967295 := by
  induction ps with
  | nil => exact le_rfl
  | cons p ps ih =>
    have := p.commentCount.toNat_lt
    rw [totalComments_cons, List.length_cons]
    omega

theorem toNat_foldl (n : UInt64) (h : n.toNat + totalComments ps < 18446744073709551616) :
    (ps.foldl (fun n p => n + p.commentCount.toUInt64) n).toNat = n.toNat + totalComments ps := by
  induction ps generalizing n with
  | nil => rfl
  | cons p ps ih =>
    rw [totalComments_cons] at h ⊢
    have sum : (n + p.commentCount.toUInt64).toNat = n.toNat + p.commentCount.toNat := by
      rw [UInt64.toNat_add, UInt32.toNat_toUInt64, Nat.mod_eq_of_lt (by omega)]
    rw [List.foldl_cons, ih _ (by omega), sum, Nat.add_assoc]

/-- While no beginning of the list leaves the 64 bits, the scores add up as whole numbers. -/
theorem toInt_foldl (n : Int64)
    (h : n.toInt.natAbs + ps.length * 2147483648 ≤ 9223372036854775807) :
    (ps.foldl (fun n p => n + p.score.toInt64) n).toInt = n.toInt + totalScore ps := by
  induction ps generalizing n with
  | nil => exact (Int.add_zero _).symm
  | cons p ps ih =>
    have := p.score.le_toInt
    have := p.score.toInt_lt
    rw [List.length_cons] at h
    have sum : (n + p.score.toInt64).toInt = n.toInt + p.score.toInt := by
      rw [Int64.toInt_add, Int32.toInt_toInt64]
      exact Int.bmod_eq_of_le (by omega) (by omega)
    rw [List.foldl_cons, ih _ (by omega), sum, totalScore_cons, Int.add_assoc]

theorem toNat_wordComments (short : ps.length < 4294967296) :
    (wordComments ps).toNat = totalComments ps := by
  have := totalComments_le ps
  rw [wordComments, toNat_foldl 0 (by simp; omega)]
  exact Nat.zero_add _

theorem toInt_wordScore (short : ps.length < 4294967296) :
    (wordScore ps).toInt = totalScore ps := by
  rw [wordScore, toInt_foldl 0 (by simp; omega)]
  exact Int.zero_add _

theorem exact_of_short (short : ps.length < 4294967296) : Exact ps where
  comments qs h := toNat_wordComments (h.length_le.trans_lt short)
  score qs h := toInt_wordScore (h.length_le.trans_lt short)
  averages := by
    have comments : UInt64.ofNat (totalComments ps) = wordComments ps := by
      rw [← toNat_wordComments short, UInt64.ofNat_toNat]
    have score : Int64.ofInt (totalScore ps) = wordScore ps := by
      rw [← toInt_wordScore short, Int64.ofInt_toInt]
    rw [averages, comments, score]

end Engagement

namespace Post

variable {ps qs : List Post}

def rearranged (ps : List Post) (σ : Equiv.Perm (Fin ps.length)) : List Post :=
  List.ofFn fun i => ps.get (σ i)

/-- The rating of a list looks at the marks of its posts only. -/
structure RatedByMarks (ps : List Post) : Prop where
  /-- Each post is rated by its own marks and by those of all posts together, in whatever order. -/
  rated : rate ps = ps.map fun p =>
    { p with
      engagement := Engagement.of (Engagement.averagesOf (ps.map marks)) p.commentCount p.score }
  permuted : ∀ σ : Equiv.Perm (Fin ps.length),
    rate (rearranged ps σ) = List.ofFn fun i => (rate ps).get ((σ i).cast (length_rate ps).symm)
  again : rate (rate ps) = rate ps
  earlier : ∀ qs, qs.map unrated = ps.map unrated → rate qs = rate ps
  unrated : (rate ps).map unrated = ps.map unrated

theorem rate_eq (ps : List Post) :
    rate ps = ps.map fun p =>
      { p with
        engagement := Engagement.of (Engagement.averagesOf (ps.map marks)) p.commentCount p.score } := by
  rw [rate, Engagement.averages_eq]

theorem rate_congr (h : qs.map unrated = ps.map unrated) : rate qs = rate ps := by
  have same : qs.map marks = ps.map marks := by
    have := congrArg (List.map marks) h
    rwa [List.map_map, List.map_map] at this
  have rerated (rs : List Post) (ms : Multiset (UInt32 × Int32)) :
      (rs.map fun p =>
        { p with engagement := Engagement.of (Engagement.averagesOf ms) p.commentCount p.score }) =
      (rs.map unrated).map fun p =>
        { p with engagement := Engagement.of (Engagement.averagesOf ms) p.commentCount p.score } := by
    rw [List.map_map]
    rfl
  rw [rate_eq, rate_eq, same, rerated, h, ← rerated]

theorem rate_permuted (σ : Equiv.Perm (Fin ps.length)) :
    rate (rearranged ps σ) = List.ofFn fun i => (rate ps).get ((σ i).cast (length_rate ps).symm) := by
  have perm : (rearranged ps σ).Perm ps := by
    have := Equiv.Perm.ofFn_comp_perm σ ps.get
    rwa [List.ofFn_get] at this
  have same : ((rearranged ps σ).map marks : Multiset (UInt32 × Int32)) = ps.map marks :=
    Multiset.coe_eq_coe.mpr (perm.map marks)
  rw [rate_eq, same, rearranged, List.map_ofFn]
  congr 1
  funext i
  simp [rate_eq]

theorem ratedByMarks (ps : List Post) : RatedByMarks ps where
  rated := rate_eq ps
  permuted := rate_permuted
  again := rate_congr (map_unrated_rate ps)
  earlier _ := rate_congr
  unrated := map_unrated_rate ps

/-- In a list of less than `2 ^ 32` posts the totals are exact, and each post is rated by its own
marks and by those of the list in whatever order. -/
theorem rate_of_short (short : ps.length < 4294967296) : Engagement.Exact ps ∧ RatedByMarks ps :=
  ⟨Engagement.exact_of_short short, ratedByMarks ps⟩

def sampleExtreme : Post := { empty with commentCount := 4294967295, score := -2147483648 }

/-- The totals of two such posts are no numbers of 32 bits. -/
theorem rate_of_short_of_extremes :
    [sampleExtreme, sampleExtreme].length < 4294967296 ∧
      RatedByMarks [sampleExtreme, sampleExtreme] ∧
      (Engagement.wordComments [sampleExtreme, sampleExtreme]).toNat = 8589934590 ∧
      (Engagement.wordScore [sampleExtreme, sampleExtreme]).toInt = -4294967296 := by
  have short : [sampleExtreme, sampleExtreme].length < 4294967296 := by decide
  obtain ⟨exact, rated⟩ := rate_of_short short
  exact ⟨short, rated, exact.comments _ List.prefix_rfl, exact.score _ List.prefix_rfl⟩

end Post

end ForumDigest
