import ForumDigest.Post.Basic

namespace ForumDigest

namespace Engagement

/-- A value against an average; an average of zero counts for nothing. -/
def ratio (value average : Float) : Float := if average == 0.0 then 0.0 else value / average

def double (n : Int64) : Float :=
  let size := (UInt64.ofNat n.toInt.natAbs).toFloat
  if n < 0 then -size else size

structure Averages where
  comments : Float
  score : Float

def totalComments (ps : List Post) : Nat := (ps.map (·.commentCount.toNat)).foldr (· + ·) 0

def totalScore (ps : List Post) : Int := (ps.map (·.score.toInt)).foldr (· + ·) 0

def averages (ps : List Post) : Averages :=
  let count := (UInt64.ofNat ps.length).toFloat
  { comments := (UInt64.ofNat (totalComments ps)).toFloat / count
    score := double (Int64.ofInt (totalScore ps)) / count }

def of (a : Averages) (comments : UInt32) (score : Int32) : Binary64 :=
  let commentRatio := ratio (UInt64.ofNat comments.toNat).toFloat a.comments
  let scoreRatio := ratio (double (Int64.ofInt score.toInt)) a.score
  .ofFloat ((commentRatio + scoreRatio) / 2.0)

end Engagement

namespace Post

/-- Rates each post against the averages of the whole list. -/
def rate (ps : List Post) : List Post :=
  let a := Engagement.averages ps
  ps.map fun p => { p with engagement := Engagement.of a p.commentCount p.score }

/-- Highest engagement first; equal ones keep their order. -/
def sortByEngagement (ps : List Post) : List Post :=
  ps.mergeSort fun p q => decide (q.engagement.rank ≤ p.engagement.rank)

end Post

end ForumDigest
