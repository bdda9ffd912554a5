import Mathlib.Algebra.Order.BigOperators.Group.List
import Mathlib.Algebra.Order.Ring.Nat
import Mathlib.Order.Lattice.Nat

/-!
# Tasks that lead to tasks

What a task leads to depends on the task and on an answer. A task runs out if, with suitable
answers, it and all that it leads to come to an end; such a task has a weight that exceeds the
weights of what it leads to, each with a surcharge.
-/

namespace Spawning

variable {τ ρ : Type*} (spawn : τ → ρ → List τ) (c : ℕ)

/-- With suitable answers a task leads to finitely many tasks in all. -/
inductive RunsOut : τ → Prop
  | intro {t : τ} (r : ρ) (h : ∀ u ∈ spawn t r, RunsOut u) : RunsOut t

/-- A number that exceeds the sum of the numbers of the tasks that it leads to, with a surcharge
for each. -/
inductive Weighs : τ → ℕ → Prop
  | intro {t : τ} {n : ℕ} (r : ρ) (f : τ → ℕ) (h : ∀ u ∈ spawn t r, Weighs u (f u))
    (hn : ((spawn t r).map fun u => f u + c).sum < n) : Weighs t n

noncomputable def weight (t : τ) : ℕ :=
  sInf {n | Weighs spawn c t n}

variable {spawn c} {t : τ}

lemma RunsOut.exists_weighs (h : RunsOut spawn t) : ∃ n, Weighs spawn c t n := by
  induction h with
  | @intro t r _ ih =>
    choose! f hf using ih
    exact ⟨_, .intro r f hf (Nat.lt_succ_self _)⟩

lemma Weighs.runsOut {n : ℕ} (h : Weighs spawn c t n) : RunsOut spawn t := by
  induction h with
  | intro r f _ _ ih => exact .intro r ih

lemma weight_le {n : ℕ} (h : Weighs spawn c t n) : weight spawn c t ≤ n :=
  Nat.sInf_le h

/-- A task that runs out outweighs all that it leads to for some answer. -/
theorem RunsOut.exists_lt_weight (h : RunsOut spawn t) :
    ∃ r, (∀ u ∈ spawn t r, RunsOut spawn u) ∧
      ((spawn t r).map fun u => weight spawn c u + c).sum < weight spawn c t := by
  have hweight : Weighs spawn c t (weight spawn c t) := Nat.sInf_mem h.exists_weighs
  obtain ⟨r, f, hf, hn⟩ := hweight
  refine ⟨r, fun u hu => (hf u hu).runsOut, lt_of_le_of_lt ?_ hn⟩
  apply List.sum_le_sum
  intro u hu
  exact Nat.add_le_add_right (weight_le (hf u hu)) c

/-- A task that does not run out leads to another such task, whatever the answer. -/
lemma exists_of_not_runsOut (h : ¬ RunsOut spawn t) (r : ρ) :
    ∃ u ∈ spawn t r, ¬ RunsOut spawn u := by
  by_contra hall
  refine h (.intro r fun u hu => ?_)
  by_contra hnot
  exact hall ⟨u, hu, hnot⟩

end Spawning
