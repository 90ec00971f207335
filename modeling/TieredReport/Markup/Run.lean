/-
# Runs: results with the failures met on the way

Rendering recovers from every failure where it stands and counts it. Only a
helper that crashes ends a run before its result; what was counted until then
stays counted.

Key definitions: `Failures`, `Run`, `Run.count`, `Run.concat`.
Key theorems: `Run.pure_bind`, `Run.bind_pure`, `Run.bind_assoc`.
-/
import TieredReport.Helper.Basic

namespace TieredReport

/-- Failures that were recovered: helper calls, references to unknown partials, and nesting beyond
a cap. -/
structure Failures where
  helper : Nat := 0
  missing : Nat := 0
  depth : Nat := 0
  deriving DecidableEq

namespace Failures

instance : Add Failures where
  add a b := ⟨a.helper + b.helper, a.missing + b.missing, a.depth + b.depth⟩

/-- No failure. -/
def none : Failures := {}

/-- One failed helper call. -/
def oneHelper : Failures := { helper := 1 }

/-- One unknown partial. -/
def oneMissing : Failures := { missing := 1 }

/-- So many times nested too deeply. -/
def tooDeep (count : Nat) : Failures := { depth := count }

@[ext] theorem ext' {a b : Failures} (h₁ : a.helper = b.helper) (h₂ : a.missing = b.missing)
    (h₃ : a.depth = b.depth) : a = b := by
  cases a; cases b; simp_all

@[simp] theorem helper_add (a b : Failures) : (a + b).helper = a.helper + b.helper := rfl

@[simp] theorem missing_add (a b : Failures) : (a + b).missing = a.missing + b.missing := rfl

@[simp] theorem depth_add (a b : Failures) : (a + b).depth = a.depth + b.depth := rfl

@[simp] theorem none_add (a : Failures) : none + a = a := by ext <;> simp [none]

@[simp] theorem add_none (a : Failures) : a + none = a := by ext <;> simp [none]

theorem add_assoc (a b c : Failures) : a + b + c = a + (b + c) := by ext <;> simp [Nat.add_assoc]

theorem add_comm (a b : Failures) : a + b = b + a := by ext <;> simp [Nat.add_comm]

end Failures

/-- A result, or the reason of a crash, and the failures counted until then. -/
structure Run (α : Type) where
  outcome : Except String α
  failures : Failures

namespace Run

variable {α β γ : Type}

/-- A result without failures. -/
def pure (a : α) : Run α := ⟨.ok a, .none⟩

/-- A run, and after its result another one. -/
def bind (x : Run α) (f : α → Run β) : Run β :=
  match x.outcome with
  | .error reason => ⟨.error reason, x.failures⟩
  | .ok a => ⟨(f a).outcome, x.failures + (f a).failures⟩

instance : Monad Run where
  pure := pure
  bind := bind

/-- Count some failures. -/
def count (failures : Failures) : Run Unit := ⟨.ok (), failures⟩

/-- End a run. -/
def crash (reason : String) : Run α := ⟨.error reason, .none⟩

/-- The texts of some runs, one after the other. -/
def concat : List (Run String) → Run String
  | [] => pure ""
  | x :: xs => x.bind fun s => (concat xs).bind fun t => pure (s ++ t)

theorem pure_bind (a : α) (f : α → Run β) : (pure a).bind f = f a := by
  simp [pure, bind]

theorem bind_pure (x : Run α) : x.bind pure = x := by
  obtain ⟨outcome, failures⟩ := x
  cases outcome <;> simp [pure, bind]

theorem bind_assoc (x : Run α) (f : α → Run β) (g : β → Run γ) :
    (x.bind f).bind g = x.bind fun a => (f a).bind g := by
  obtain ⟨outcome, failures⟩ := x
  cases outcome with
  | error reason => rfl
  | ok a =>
    simp only [bind]
    cases (f a).outcome <;> simp [Failures.add_assoc]

end Run

end TieredReport
