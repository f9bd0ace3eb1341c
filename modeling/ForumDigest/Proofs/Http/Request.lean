import ForumDigest.Http.Request
import Mathlib.Tactic.SplitIfs

namespace ForumDigest.Http

theorem isHeaderValue_append (s t : String) :
    isHeaderValue (s ++ t) = (isHeaderValue s && isHeaderValue t) := by
  simp only [isHeaderValue, String.toList_append, List.all_append]

theorem isHeaderChar_letter (n : Nat) : isHeaderChar (Base64.letter n) = true := by
  have small : ∀ m < 63, isHeaderChar (Base64.letter m) = true := by decide
  by_cases h : n < 63
  · exact small n h
  · have hn : Base64.letter n = '/' := by
      rw [Base64.letter, if_neg (by omega), if_neg (by omega), if_neg (by omega), if_neg (by omega)]
    rw [hn]
    decide

theorem all_isHeaderChar_encode (bs : List UInt8) : (Base64.encode bs).all isHeaderChar = true := by
  have pad : isHeaderChar '=' = true := by decide
  induction bs using Base64.encode.induct with
  | case1 a b c rest ih =>
    simp only [Base64.encode, List.all_cons, isHeaderChar_letter, ih, Bool.and_self]
  | case2 a b => simp only [Base64.encode, List.all_cons, isHeaderChar_letter, pad]; rfl
  | case3 a => simp only [Base64.encode, List.all_cons, isHeaderChar_letter, pad]; rfl
  | case4 => rfl

/-- Whatever the name and the password are, the header that tells them can be written. -/
theorem isHeaderValue_basicAuthorization (name password : String) :
    isHeaderValue (basicAuthorization name password).2 = true := by
  have hb : isHeaderValue "Basic " = true := by decide
  rw [basicAuthorization, isHeaderValue_append, hb, Bool.true_and, isHeaderValue,
    String.toList_ofList]
  exact all_isHeaderChar_encode _

theorem basicAuthorization_ne_bearer (name password t : String) :
    (basicAuthorization name password).2 ≠ "bearer " ++ t := by
  intro h
  have hh := congrArg (fun s => s.toList.head?) h
  simp [basicAuthorization] at hh

def urlAuthorization (u : Url) : Headers :=
  ((u.authority.bind userinfo?).map fun i => basicAuthorization i.1 (i.2.getD "")).toList

theorem not_bearer_of_mem_urlAuthorization {u : Url} {h : String × String}
    (hh : h ∈ urlAuthorization u) (t : String) : h.2 ≠ "bearer " ++ t := by
  obtain ⟨i, -, rfl⟩ := Option.map_eq_some_iff.mp (Option.mem_toList.mp hh)
  exact basicAuthorization_ne_bearer _ _ t

def sentUrl (u : Url) : Url := if (u.authority.bind userinfo?).isSome then withoutUserinfo u else u

theorem prepare_eq (m : Method) (url : Url) (headers : Headers) (body : String) :
    Request.prepare m url headers body =
      if !url.hasHost then .error (.badScheme url)
      else if !headers.all (fun h => isHeaderValue h.2) then .error .badHeader
      else if (sentUrl url).scheme = "http" ∨ (sentUrl url).scheme = "https" then
        .ok { method := m, url := sentUrl url, headers := urlAuthorization url ++ headers, body }
      else .error (.badScheme (sentUrl url)) := by
  unfold Request.prepare sentUrl urlAuthorization
  generalize url.authority.bind userinfo? = i
  rcases i with _ | ⟨name, password⟩
  · rfl
  · dsimp only
    rw [List.all_cons, isHeaderValue_basicAuthorization, Bool.true_and]
    rfl

theorem prepare_ok {m : Method} {url : Url} {headers : Headers} {body : String} {r : Request}
    (h : Request.prepare m url headers body = .ok r) :
    r = { method := m, url := sentUrl url, headers := urlAuthorization url ++ headers, body } := by
  rw [prepare_eq] at h
  split at h
  · cases h
  · split at h
    · cases h
    · split at h
      · exact (Except.ok.inj h).symm
      · cases h

def maskHeader (h : String × String) : String × String :=
  if h.1 = "authorization" then (h.1, "") else h

/-- What a request tells apart from who it is for: its authorization and the body of a form are left
out. -/
def Request.masked (r : Request) : Request :=
  { r with
    headers := r.headers.map maskHeader
    body := if r.method = .post then "" else r.body }

theorem prepare_masked {m : Method} {url : Url} {h₁ h₂ : Headers} {b₁ b₂ : String}
    (hh : h₁.map maskHeader = h₂.map maskHeader)
    (hl : (h₁.all fun h => isHeaderValue h.2) = h₂.all fun h => isHeaderValue h.2)
    (hb : m = .post ∨ b₁ = b₂) :
    (Request.prepare m url h₁ b₁).map Request.masked =
      (Request.prepare m url h₂ b₂).map Request.masked := by
  have hbody : (if m = .post then "" else b₁) = if m = .post then "" else b₂ := by
    obtain rfl | rfl := hb <;> simp
  rw [prepare_eq, prepare_eq, hl]
  split_ifs
  · rfl
  · rfl
  · simp only [Except.map, Request.masked, List.map_append, hh, hbody]
  · rfl

end ForumDigest.Http
