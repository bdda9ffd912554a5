import Mathlib.Tactic.Common

/-!
# A queue with a counting event

Producers append to a list and signal an event afterwards; the event counts the signals, and a
consumer that saw the list empty waits for it. What was appended and what was taken is recorded,
and so is the number of producers that have appended and not signalled yet.
-/

/-- The list, the event's count, the producers that are about to signal, and the record. -/
structure EventQueue (α : Type*) where
  list : List α
  count : ℕ
  signalling : ℕ
  pushed : List α
  taken : List α

namespace EventQueue

variable {α : Type*} {q q' : EventQueue α}

def new : EventQueue α := ⟨[], 0, 0, [], []⟩

def push (q : EventQueue α) (a : α) : EventQueue α :=
  { q with list := q.list ++ [a], signalling := q.signalling + 1, pushed := q.pushed ++ [a] }

def signal (q : EventQueue α) : Option (EventQueue α) :=
  if q.signalling = 0 then none
  else some { q with signalling := q.signalling - 1, count := q.count + 1 }

def wait (q : EventQueue α) : Option (EventQueue α) :=
  if q.count = 0 then none else some { q with count := q.count - 1 }

def take (q : EventQueue α) : Option (EventQueue α) :=
  match q.list with
  | [] => none
  | a :: l => some { q with list := l, taken := q.taken ++ [a] }

lemma signal_eq_some : q.signal = some q' ↔ 0 < q.signalling ∧
    q' = { q with signalling := q.signalling - 1, count := q.count + 1 } := by
  rw [signal]
  split_ifs with h
  · simp [h]
  · simp [Nat.pos_of_ne_zero h, eq_comm]

lemma wait_eq_some : q.wait = some q' ↔ 0 < q.count ∧ q' = { q with count := q.count - 1 } := by
  rw [wait]
  split_ifs with h
  · simp [h]
  · simp [Nat.pos_of_ne_zero h, eq_comm]

/-- What was taken is what was appended first, and the rest is in the list. -/
def InOrder (q : EventQueue α) : Prop :=
  q.pushed = q.taken ++ q.list

/-- For each entry of the list the event was signalled or will be. -/
def Covered (q : EventQueue α) : Prop :=
  q.list.length ≤ q.count + q.signalling

lemma inOrder_new : (new : EventQueue α).InOrder := rfl

lemma InOrder.push (h : q.InOrder) (a : α) : (q.push a).InOrder := by
  show q.pushed ++ [a] = q.taken ++ (q.list ++ [a])
  rw [h, List.append_assoc]

lemma InOrder.signal (h : q.InOrder) (hs : q.signal = some q') : q'.InOrder := by
  rw [EventQueue.signal] at hs
  split_ifs at hs
  exact Option.some.inj hs ▸ h

lemma InOrder.wait (h : q.InOrder) (hs : q.wait = some q') : q'.InOrder := by
  rw [EventQueue.wait] at hs
  split_ifs at hs
  exact Option.some.inj hs ▸ h

lemma list_of_take_eq_none (h : q.take = none) : q.list = [] := by
  cases hl : q.list with
  | nil => rfl
  | cons a l => simp [EventQueue.take, hl] at h

lemma InOrder.take (h : q.InOrder) (hs : q.take = some q') : q'.InOrder := by
  cases hl : q.list with
  | nil => simp [EventQueue.take, hl] at hs
  | cons a l =>
    simp only [EventQueue.take, hl, Option.some.injEq] at hs
    rw [← hs]
    show q.pushed = (q.taken ++ [a]) ++ l
    rw [h, hl, List.append_assoc]
    rfl

lemma covered_of_nil (h : q.list = []) : q.Covered := by
  simp [Covered, h]

lemma Covered.push (h : q.Covered) (a : α) : (q.push a).Covered := by
  have hq : q.list.length ≤ q.count + q.signalling := h
  show (q.list ++ [a]).length ≤ q.count + (q.signalling + 1)
  rw [List.length_append, List.length_singleton]
  omega

lemma Covered.signal (h : q.Covered) (hs : q.signal = some q') : q'.Covered := by
  have hq : q.list.length ≤ q.count + q.signalling := h
  rw [EventQueue.signal] at hs
  split_ifs at hs with h0
  rw [← Option.some.inj hs]
  show q.list.length ≤ q.count + 1 + (q.signalling - 1)
  omega

/-- When no signal is left and none will come, nothing is left to take. -/
lemma Covered.list_eq_nil (h : q.Covered) (hcount : q.count = 0) (hs : q.signalling = 0) :
    q.list = [] := by
  have hq : q.list.length ≤ q.count + q.signalling := h
  apply List.length_eq_zero_iff.mp
  omega

lemma push_list_ne_nil (a : α) : (q.push a).list ≠ [] := by
  simp [EventQueue.push]

lemma signal_list (hs : q.signal = some q') : q'.list = q.list := by
  rw [EventQueue.signal] at hs
  split_ifs at hs
  exact Option.some.inj hs ▸ rfl

end EventQueue
