/-
# The moments of a history

A history is gone through as a list of moments, the last one first: each request
together with the state that it found. What happened over a history is counted over
that list, and what happened since a request of some kind over those of its moments
that stand in front of the first one of that kind.

Key definitions: `moments`, `since`.
Key theorems: `moments_append`, `moments_eq_append`.
-/
import Mathlib.Data.List.Induction

namespace TieredReport

universe u v

section

variable {σ : Type u} {ρ : Type v}

/-- The requests of a history, the last one first, each with the state that it found. -/
def moments (step : σ → ρ → σ) : σ → List ρ → List (σ × ρ)
  | _, [] => []
  | s, r :: later => moments step (step s r) later ++ [(s, r)]

/-- A history in two parts has the moments of its second part in front, from where the first part has
led to. -/
theorem moments_append_history (step : σ → ρ → σ) : ∀ (s : σ) (before rest : List ρ),
    moments step s (before ++ rest) =
      moments step (before.foldl step s) rest ++ moments step s before
  | _, [], _ => by simp [moments]
  | s, first :: before, rest => by
    rw [List.cons_append, moments, moments_append_history, moments, List.foldl_cons,
      List.append_assoc]

/-- One more request finds the state that the others have led to. -/
theorem moments_append (step : σ → ρ → σ) (s : σ) (history : List ρ) (r : ρ) :
    moments step s (history ++ [r]) = (history.foldl step s, r) :: moments step s history :=
  moments_append_history step s history [r]

/-- The moments behind one of a history are those of the requests before, which have led to the state
that it found. -/
theorem moments_eq_append {step : σ → ρ → σ} {s : σ} {history : List ρ} {m : σ × ρ}
    {later earlier : List (σ × ρ)} (h : moments step s history = later ++ m :: earlier) :
    ∃ before rest, history = before ++ m.2 :: rest ∧ m.1 = before.foldl step s ∧
      earlier = moments step s before := by
  induction history using List.reverseRecOn generalizing later with
  | nil => simp [moments] at h
  | append_singleton history r ih =>
    rw [moments_append] at h
    cases later with
    | nil =>
      obtain ⟨rfl, rfl⟩ := List.cons.inj h
      exact ⟨history, [], rfl, rfl, rfl⟩
    | cons newest later =>
      obtain ⟨before, rest, rfl, hstate, hearlier⟩ := ih (List.cons.inj h).2
      exact ⟨before, rest ++ [r], by simp, hstate, hearlier⟩

end

section

variable {μ : Type u} {ν : Type v} {resets : μ → Bool} {m : μ}

/-- The moments that come after the last one of a kind, or all if there is none. -/
def since (resets : μ → Bool) (all : List μ) : List μ := all.takeWhile fun m => !resets m

/-- What there was over some moments, and at one more. -/
theorem length_flatMap_cons (f : μ → List ν) (m : μ) (all : List μ) :
    ((m :: all).flatMap f).length = (all.flatMap f).length + (f m).length := by
  rw [List.flatMap_cons, List.length_append, Nat.add_comm]

theorem since_cons_of_reset (h : resets m = true) (all : List μ) : since resets (m :: all) = [] := by
  simp [since, h]

theorem since_cons_of_not_reset (h : resets m = false) (all : List μ) :
    since resets (m :: all) = m :: since resets all := by
  simp [since, h]

end

end TieredReport
