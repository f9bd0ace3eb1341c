import ForumDigest.Client.Authentication
import ForumDigest.Proofs.Client.Answer
import ForumDigest.Proofs.Http.Response
import Mathlib.Tactic.Common

namespace ForumDigest

open Http

namespace Http.Response

variable {r : Response}

theorem text_of_bodied (bodied : r.status ≠ 204) (success : 200 ≤ r.status ∧ r.status < 300) :
    r.text = match r.ending with
      | .complete => .ok r.body
      | .broken => .error .brokenBody
      | .stalled => .error .stalledBody := by
  have modified : r.status ≠ 304 := by
    intro h
    rw [h] at success
    exact absurd success (by decide)
  rw [text, hasBody]
  cases r.ending <;> simp [bodied, modified]

end Http.Response

namespace Client

variable {α : Type}

variable {c : Client} {r : Response}

end Client

end ForumDigest
