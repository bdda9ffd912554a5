import Mathlib.Algebra.Order.BigOperators.Group.List
import Mathlib.Algebra.Order.Ring.Nat
import Mathlib.Tactic.Common

/-!
# Threads in a list

The states of several threads in a list, by their numbers, when one of them moves.
-/

namespace Threads

variable {β : Type*} {l : List β} {i j : ℕ} {b c : β}

/-- A thread is the one that has moved, in its new state, or another one in its old state. -/
lemma getElem?_set_cases (h : (l.set i b)[j]? = some c) :
    (j = i ∧ c = b) ∨ (j ≠ i ∧ l[j]? = some c) := by
  rw [List.getElem?_set] at h
  split_ifs at h with hij hlt
  · exact Or.inl ⟨hij.symm, (Option.some.inj h).symm⟩
  · exact Or.inr ⟨fun hji => hij hji.symm, h⟩

lemma getElem?_concat_cases (h : (l ++ [b])[i]? = some c) :
    (i < l.length ∧ l[i]? = some c) ∨ (i = l.length ∧ c = b) := by
  rw [List.getElem?_append] at h
  split_ifs at h with hlt
  · exact Or.inl ⟨hlt, h⟩
  · obtain ⟨hi, rfl⟩ := List.getElem?_eq_some_iff.mp h
    rw [List.length_singleton] at hi
    exact Or.inr ⟨by omega, by simp⟩

/-- The state of a thread is that of the one that moves, or it is still there afterwards. -/
lemma eq_or_mem_set (b' : β) (hi : l[i]? = some b) (hc : c ∈ l) : c = b ∨ c ∈ l.set i b' := by
  obtain ⟨j, hj⟩ := List.getElem?_of_mem hc
  by_cases hij : i = j
  · subst hij
    exact Or.inl (Option.some.inj (hj.symm.trans hi))
  · exact Or.inr (List.mem_of_getElem? ((List.getElem?_set_ne hij).trans hj))

lemma mem_set_of_ne {b' : β} (hi : l[i]? = some b) (hc : c ∈ l) (hne : c ≠ b) : c ∈ l.set i b' :=
  (eq_or_mem_set b' hi hc).resolve_left hne

lemma mem_set_self (b' : β) (hi : l[i]? = some b) : b' ∈ l.set i b' :=
  List.mem_set (List.getElem?_eq_some_iff.mp hi).1 b'

lemma sum_map_set (f : β → ℕ) (b' : β) (hi : l[i]? = some b) :
    ((l.set i b').map f).sum + f b = (l.map f).sum + f b' := by
  induction l generalizing i with
  | nil => simp at hi
  | cons a l ih =>
    cases i with
    | zero =>
      cases hi
      simp only [List.set_cons_zero, List.map_cons, List.sum_cons]
      omega
    | succ i =>
      have ih := ih (i := i) hi
      simp only [List.set_cons_succ, List.map_cons, List.sum_cons]
      omega

lemma le_sum_map (f : β → ℕ) (hi : l[i]? = some b) : f b ≤ (l.map f).sum :=
  List.single_le_sum (fun _ _ => Nat.zero_le _) _ (List.mem_map_of_mem (List.mem_of_getElem? hi))

end Threads
