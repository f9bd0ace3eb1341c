import ForumDigest.CommandLine.Run
import ForumDigest.Proofs.Calendar.Rfc3339
import ForumDigest.Proofs.Json.Written
import Mathlib.Data.List.Forall2

namespace ForumDigest

namespace Rfc3339

/-- The digits of `n`. Zeros stand in front only where there would be fewer than `width`. -/
structure Numeral (width n : Nat) (ds : List Char) : Prop extends Json.Digits ds where
  value : Nat.ofDigitChars 10 ds 0 = n
  wide : width ≤ ds.length
  unpadded : width < ds.length → Json.IsWhole ds

theorem numeral_padded (width n : Nat) : Numeral width n (padded width n) where
  toDigits := digits_padded width n
  value := by rw [← valueOf_eq, valueOf_padded]
  wide := by
    rw [padded, List.length_append, List.length_replicate]
    omega
  unpadded := by
    intro long
    rw [padded, List.length_append, List.length_replicate] at long
    have none : width - (Nat.toDigits 10 n).length = 0 := by omega
    rw [padded, none]
    exact Json.isWhole_writeNat n

/-- Only a year of four digits stands without a sign. -/
inductive IsYear (y : Int) : List Char → Prop where
  | plain {ds : List Char} (range : 0 ≤ y ∧ y ≤ 9999) (digits : Numeral 4 y.natAbs ds) : IsYear y ds
  | early {ds : List Char} (range : y < 0) (digits : Numeral 4 y.natAbs ds) : IsYear y ('-' :: ds)
  | late {ds : List Char} (range : 9999 < y) (digits : Numeral 4 y.natAbs ds) : IsYear y ('+' :: ds)

theorem isYear_yearText (y : Int) : IsYear y (yearText y) := by
  unfold yearText
  split
  · rename_i range
    have same : y.toNat = y.natAbs := by omega
    rw [same]
    exact .plain range (numeral_padded 4 y.natAbs)
  · split
    · exact .early ‹_› (numeral_padded 4 y.natAbs)
    · exact .late (by omega) (numeral_padded 4 y.natAbs)

/-- The date and the time of `t` to the minute, as in `2024-05-01 09:30 UTC`. -/
inductive TellsMinute (t : Instant) : String → Prop where
  | intro {date : Date} {hour minute : Nat} {year month day hours minutes : List Char}
      (onDay : date.toDays = t.seconds / 86400) (inYear : 1 ≤ date.month ∧ date.month ≤ 12)
      (inMonth : 1 ≤ date.day ∧ date.day ≤ Date.monthLength date.year date.month)
      (inHour : minute < 60) (inDay : ((hour * 60 + minute : Nat) : Int) = t.seconds % 86400 / 60)
      (years : IsYear date.year year) (months : Numeral 2 date.month month)
      (days : Numeral 2 date.day day) (clock : Numeral 2 hour hours ∧ Numeral 2 minute minutes) :
      TellsMinute t (String.ofList (year ++ '-' :: (month ++ '-' :: (day ++ ' ' ::
        (hours ++ ':' :: minutes)))) ++ " UTC")

theorem take_timeText (t : Instant) :
    (timeText t).take 5 =
      padded 2 (t.secondOfDay / 3600) ++ ':' :: padded 2 (t.secondOfDay / 60 % 60) := by
  have ofDay : t.secondOfDay < 86400 := by
    unfold Instant.secondOfDay
    omega
  have hours : (padded 2 (t.secondOfDay / 3600)).length = 2 :=
    length_padded (by decide) (show _ < 100 by omega)
  have minutes : (padded 2 (t.secondOfDay / 60 % 60)).length = 2 :=
    length_padded (by decide) (show _ < 100 by omega)
  have front : padded 2 (t.secondOfDay / 3600) ++ ':' :: padded 2 (t.secondOfDay / 60 % 60) <+:
      timeText t := by
    simp [timeText]
  rw [List.prefix_iff_eq_take] at front
  simpa [hours, minutes] using front.symm

theorem tellsMinute_minuteText (t : Instant) : TellsMinute t (minuteText t) := by
  obtain ⟨month, day, count⟩ := Date.ofDays_spec (t.seconds / 86400)
  have inDay : ((t.secondOfDay / 3600 * 60 + t.secondOfDay / 60 % 60 : Nat) : Int) =
      t.seconds % 86400 / 60 := by
    unfold Instant.secondOfDay
    omega
  have written : minuteText t = String.ofList (yearText t.date.year ++ '-' ::
      (padded 2 t.date.month ++ '-' :: (padded 2 t.date.day ++ ' ' ::
        (padded 2 (t.secondOfDay / 3600) ++ ':' :: padded 2 (t.secondOfDay / 60 % 60))))) ++
      " UTC" := by
    simp [minuteText, dateText, take_timeText]
  rw [written]
  exact .intro count month day (by omega) inDay (isYear_yearText _) (numeral_padded 2 _)
    (numeral_padded 2 _) ⟨numeral_padded 2 _, numeral_padded 2 _⟩

end Rfc3339

namespace Post

variable {p : Post}

inductive TitleLine (p : Post) : String → Prop where
  | crosspost (repeats : p.isCrosspost = true) : TitleLine p ("  " ++ p.title ++ " [crosspost]")
  | original (own : p.isCrosspost = false) : TitleLine p ("  " ++ p.title)

inductive TagLines (p : Post) : List String → Prop where
  | untagged (none : p.tags = []) : TagLines p []
  | tagged {tag : String} {tags : List String} (some : p.tags = tag :: tags) :
      TagLines p ["    tags: " ++ tag ++ String.join (tags.map (", " ++ ·))]

inductive TargetLines (p : Post) : List String → Prop where
  | untargeted (none : p.targetUrl = none) : TargetLines p []
  | targeted {target : String} (some : p.targetUrl = some target) :
      TargetLines p ["    " ++ target ++ " (" ++ p.targetUrlDomain ++ ")"]

/-- The lines are what a reader is shown of the post. -/
inductive ShownAs (p : Post) : List String → Prop where
  | intro {title time : String} {tags target : List String} (titled : p.TitleLine title)
      (posted : Rfc3339.TellsMinute p.timePosted time) (tagged : p.TagLines tags)
      (targeted : p.TargetLines target) :
      ShownAs p (title :: ("    " ++ toString p.score.toInt ++ " points, " ++
        toString p.commentCount.toNat ++ " comments, " ++ time) ::
        (tags ++ target ++ ["    " ++ p.discussionUrl]))

theorem titleLine_title (p : Post) :
    p.TitleLine ("  " ++ p.title ++ (if p.isCrosspost then " [crosspost]" else "")) := by
  cases own : p.isCrosspost with
  | true => exact .crosspost own
  | false =>
    rw [if_neg Bool.false_ne_true, String.append_empty]
    exact .original own

theorem intercalate_comma (tag : String) (tags : List String) :
    ", ".intercalate (tag :: tags) = tag ++ String.join (tags.map (", " ++ ·)) := by
  induction tags generalizing tag with
  | nil => simp
  | cons next tags ih =>
    rw [String.intercalate_cons_cons, ih, List.map_cons, String.join_cons, String.append_assoc,
      String.append_assoc]

theorem tagLines_tags (p : Post) :
    p.TagLines (if p.tags.isEmpty then [] else ["    tags: " ++ ", ".intercalate p.tags]) := by
  cases tags : p.tags with
  | nil => exact .untagged tags
  | cons tag rest =>
    rw [List.isEmpty_cons, if_neg Bool.false_ne_true, intercalate_comma, ← String.append_assoc]
    exact .tagged tags

theorem targetLines_target (p : Post) :
    p.TargetLines (p.targetUrl.map fun target =>
      "    " ++ target ++ " (" ++ p.targetUrlDomain ++ ")").toList := by
  cases target : p.targetUrl with
  | none => exact .untargeted target
  | some url => exact .targeted target

theorem shownAs_lines (p : Post) : p.ShownAs p.lines := by
  have shown := ShownAs.intro p.titleLine_title (Rfc3339.tellsMinute_minuteText p.timePosted)
    p.tagLines_tags p.targetLines_target
  simpa [lines] using shown

end Post

/-- The lines about the posts that were read of a subreddit. -/
inductive Feed.Digest (subreddit : String) (posts : List Post) : List String → Prop where
  | intro {blocks : List (List String)} (shown : List.Forall₂ Post.ShownAs posts blocks) :
      Digest subreddit posts (("r/" ++ subreddit ++ " (" ++ toString posts.length ++ " posts)") ::
        (blocks.flatten ++ [""]))

theorem Feed.digest_postLines (subreddit : String) (posts : List Post) :
    Digest subreddit posts (postLines subreddit posts) := by
  have shown : List.Forall₂ Post.ShownAs posts (posts.map Post.lines) :=
    List.forall₂_map_right_iff.mpr (List.forall₂_same.mpr fun p _ => p.shownAs_lines)
  have digest : Digest subreddit posts _ := .intro shown
  simpa [postLines, List.flatMap] using digest

end ForumDigest
