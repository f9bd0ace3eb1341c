import ForumDigest.Config.Json
import ForumDigest.Proofs.Json.Constant

namespace ForumDigest

open Json

theorem SortOrder.lookup_name (s : SortOrder) : options.lookup s.name = some s := by
  cases s <;> decide

theorem TopPeriod.lookup_name (p : TopPeriod) : options.lookup p.name = some p := by
  cases p <;> decide

theorem ExtraSort.lookup_name (e : ExtraSort) : options.lookup e.name = some e := by
  cases e
  decide

namespace Identity

theorem exact_fields : ExactFields fields :=
  .cons exact_readString <| .cons exact_readString <| .cons exact_readString <|
    .cons exact_readString <| .cons exact_readString .nil

theorem exact_read : Identity.read.Exact := exact_readRecord exact_fields _ _

theorem restores (i : Identity) : Identity.read.Restores i.write i :=
  restores_record "AppAuthConfig" exact_fields (by decide) <|
    .cons (restores_string i.clientId) <| .cons (restores_string i.clientSecret) <|
    .cons (restores_string i.username) <| .cons (restores_string i.password) <|
    .cons (restores_string i.userAgent) .nil

end Identity

namespace Subscription

theorem exact_fields : ExactFields fields :=
  .cons exact_readString <| .cons (exact_readConstant _) <| .cons (exact_readConstant _) <|
    .cons exact_readString.option <| .cons (exact_readConstant _).option <|
    .cons exact_readString.option <| .cons exact_readString.option <| .cons exact_readBool <|
    .cons exact_readSize <| .cons Identity.exact_read.option .nil

theorem exact_read : Subscription.read.Exact := exact_readRecord exact_fields _ _

theorem restores (s : Subscription) : Subscription.read.Restores s.write s :=
  restores_record "SubredditConfig" exact_fields (by decide) <|
    .cons (restores_string s.subreddit) <|
    .cons (restores_constant _ s.sortBy.lookup_name) <|
    .cons (restores_constant _ s.topPeriod.lookup_name) <|
    .cons (restores_optional s.search) <|
    .cons (restores_option (fun e _ => restores_constant _ e.lookup_name)
      fun e => writeText_ne_null e.name.toList) <|
    .cons (restores_optional s.commentsUrlTemplate) <|
    .cons (restores_optional s.requestUrlTemplate) <|
    .cons (restores_bool s.showFlairs) <|
    .cons (restores_size s.limit) <|
    .cons (restores_option (fun i _ => i.restores) fun _ => writeObject_ne_null _) .nil

end Subscription

namespace Configuration

theorem exact_fields : ExactFields fields := .cons (exact_readList Subscription.exact_read) .nil

theorem exact_read : Configuration.read.Exact := exact_readRecord exact_fields _ _

theorem restores (c : Configuration) : Configuration.read.Restores c.write c :=
  restores_record "FeedConfig" exact_fields (by decide) <|
    .cons (restores_list Subscription.exact_read fun s _ => s.restores) .nil

/-- Any strings, any options set or not, any limit, and any number of subscriptions. -/
theorem ofJson_toJson (c : Configuration) : ofJson c.toJson = .ok c :=
  c.restores.decode exact_read

end Configuration

end ForumDigest
