namespace ForumDigest

inductive SortOrder where
  | hot
  | new
  | top
  | rising
  deriving DecidableEq, Repr, Inhabited

namespace SortOrder

def all : List SortOrder := [hot, new, top, rising]

def name : SortOrder → String
  | hot => "hot"
  | new => "new"
  | top => "top"
  | rising => "rising"

end SortOrder

inductive TopPeriod where
  | hour
  | day
  | week
  | month
  | year
  | all
  deriving DecidableEq, Repr

namespace TopPeriod

instance : Inhabited TopPeriod := ⟨day⟩

def every : List TopPeriod := [hour, day, week, month, year, all]

def name : TopPeriod → String
  | hour => "hour"
  | day => "day"
  | week => "week"
  | month => "month"
  | year => "year"
  | all => "all"

end TopPeriod

inductive ExtraSort where
  | engagement
  deriving DecidableEq, Repr

namespace ExtraSort

def every : List ExtraSort := [engagement]

def name : ExtraSort → String
  | engagement => "engagement"

end ExtraSort

end ForumDigest
