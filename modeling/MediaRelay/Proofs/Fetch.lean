import MediaRelay.Fetch
import MediaRelay.Proofs.World
/-! A fetch as a chain of exchanges: each but the last is answered by a redirect, and the outcome of
the last one is that of all. -/

namespace MediaRelay.Fetch

variable {τ : Type}

open Web

inductive Chain : World τ → Outcome (Except HttpError Reply) → World τ → Prop
  | last {w w' : World τ} {due : Nanos} {shown : String} {url : Url} {q : Request}
      {o : Outcome (Except HttpError Response)} (h : exchange due shown url q w = (o, w'))
      (r : Except HttpError Reply) : Chain w (o.map fun _ => r) w'
  | redirected {w w₁ w' : World τ} {due : Nanos} {shown : String} {url : Url} {q : Request}
      {a : Except HttpError Response} {o : Outcome (Except HttpError Reply)}
      (h : exchange due shown url q w = (.done a, w₁)) (rest : Chain w₁ o w') : Chain w o w'

theorem chain_of_follow {due : Nanos} {shown : String} {p : Prepared} {left : ℕ}
    {previous : Option Url} {url : Url} {w w' : World τ} {o : Outcome (Except HttpError Reply)}
    (h : follow due shown p left previous url w = (o, w')) : Chain w o w' := by
  induction left using Nat.strongRecOn generalizing p previous url w with
  | _ left ih =>
    rw [follow.eq_def] at h
    dsimp only at h
    generalize requestOf w.client.jar p.method p.body url _ = q at h
    rcases hex : exchange due shown url q w with ⟨o₁, w₁⟩
    simp only [hex] at h
    have hlast (r : Except HttpError Reply) (hr : (o₁.map fun _ => r, w₁) = (o, w')) :
        Chain w o w' := by
      obtain ⟨rfl, rfl⟩ := Prod.mk.inj hr
      exact .last hex r
    -- where the exchange is not done, nothing is made of its answer
    cases o₁ with
    | failed e => exact hlast (.error (.notSent "")) h
    | waiting => exact hlast (.error (.notSent "")) h
    | crashed => exact hlast (.error (.notSent "")) h
    | done a =>
      cases a with
      | error e => exact hlast _ h
      | ok r =>
        dsimp only at h
        split at h
        · exact hlast _ h
        · split at h
          · exact hlast _ h
          · split_ifs at h
            · exact hlast _ h
            · rename_i left _
              exact .redirected hex (ih left (Nat.lt_succ_self left) h)

/-- A draft that cannot be prepared asks for nothing. -/
theorem send_cases {d : Draft} {w w' : World τ} {o : Outcome (Except HttpError Reply)}
    (h : send d w = (o, w')) : (∃ e, o = .done (.error e) ∧ w' = w) ∨ Chain w o w' := by
  rw [send] at h
  split at h
  · obtain ⟨rfl, rfl⟩ := Prod.mk.inj h
    exact .inl ⟨_, rfl, rfl⟩
  · exact .inr (chain_of_follow h)

end MediaRelay.Fetch
