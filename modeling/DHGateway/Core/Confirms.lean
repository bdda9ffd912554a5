import Mathlib.Data.List.Perm.Basic
import Mathlib.Data.List.Perm.Subperm
import Mathlib.Tactic.Common

/-!
# Messages that are confirmed

A broker that gets messages over connections, accepts them some time later and confirms each of
them on the connection it came over. Messages and confirms can be lost on the way. A confirm says
nothing but that some message of its connection was accepted.
-/

/-- The messages on their way to the broker, the confirms on their way back, each with its
connection, and what the broker has accepted. -/
structure Confirms (κ μ : Type*) where
  transit : List (κ × μ)
  acks : List (κ × μ)
  accepted : List μ

/-- What the broker and the network do. -/
inductive Confirms.Event where
  | accept (i : ℕ)
  | lose (i : ℕ)
  | loseAck (i : ℕ)

open scoped List

namespace Confirms

variable {κ μ : Type*}

def new : Confirms κ μ := ⟨[], [], []⟩

def send (b : Confirms κ μ) (c : κ) (m : μ) : Confirms κ μ :=
  { b with transit := b.transit ++ [(c, m)] }

/-- Messages may overtake one another. -/
def step (b : Confirms κ μ) : Event → Option (Confirms κ μ)
  | .accept i => b.transit[i]?.map fun e => { b with
      transit := b.transit.eraseIdx i
      acks := b.acks ++ [e]
      accepted := b.accepted ++ [e.2] }
  | .lose i => b.transit[i]?.map fun _ => { b with transit := b.transit.eraseIdx i }
  | .loseAck i => b.acks[i]?.map fun _ => { b with acks := b.acks.eraseIdx i }

lemma step_cases {b b' : Confirms κ μ} {e : Event} (h : b.step e = some b') :
    (∃ i c m, b.transit[i]? = some (c, m) ∧ b' = { b with
      transit := b.transit.eraseIdx i
      acks := b.acks ++ [(c, m)]
      accepted := b.accepted ++ [m] }) ∨
    (∃ i, b' = { b with transit := b.transit.eraseIdx i }) ∨
    ∃ i, b' = { b with acks := b.acks.eraseIdx i } := by
  cases e with
  | accept i =>
    obtain ⟨⟨c, m⟩, he, rfl⟩ := Option.map_eq_some_iff.mp h
    exact Or.inl ⟨i, c, m, he, rfl⟩
  | lose i =>
    obtain ⟨_, _, rfl⟩ := Option.map_eq_some_iff.mp h
    exact Or.inr (Or.inl ⟨i, rfl⟩)
  | loseAck i =>
    obtain ⟨_, _, rfl⟩ := Option.map_eq_some_iff.mp h
    exact Or.inr (Or.inr ⟨i, rfl⟩)

lemma accepted_step {b b' : Confirms κ μ} {e : Event} (h : b.step e = some b') :
    b.accepted.Sublist b'.accepted := by
  rcases step_cases h with ⟨_, _, _, _, rfl⟩ | ⟨_, rfl⟩ | ⟨_, rfl⟩
  · exact List.sublist_append_left _ _
  · exact List.Sublist.refl _
  · exact List.Sublist.refl _

lemma eraseIdx_perm {l : List (κ × μ)} {i : ℕ} {e : κ × μ} (h : l[i]? = some e) :
    (l.eraseIdx i ++ [e]).Perm l := by
  obtain ⟨hlt, rfl⟩ := List.getElem?_eq_some_iff.mp h
  exact (List.perm_append_singleton _ _).trans (List.getElem_cons_eraseIdx_perm hlt)

/-! ### How often a message is accepted -/

section

variable [DecidableEq μ] {b b' : Confirms κ μ} {c : κ} {m : μ}

/-- The acceptances of a message and the copies of it on their way. -/
def copies (b : Confirms κ μ) (m : μ) : ℕ :=
  b.accepted.count m + (b.transit.map Prod.snd).count m

lemma copies_send (m' : μ) :
    (b.send c m').copies m = b.copies m + [m'].count m := by
  simp only [copies, send, List.map_append, List.count_append, List.map_cons, List.map_nil]
  omega

lemma copies_step {e : Event} (h : b.step e = some b') :
    b'.copies m ≤ b.copies m := by
  rcases step_cases h with ⟨i, c', m', he, rfl⟩ | ⟨i, rfl⟩ | ⟨i, rfl⟩
  · have hcount := ((eraseIdx_perm he).map Prod.snd).count_eq m
    simp only [copies, List.map_append, List.count_append, List.map_cons, List.map_nil]
      at hcount ⊢
    omega
  · exact Nat.add_le_add_left
      (((List.eraseIdx_sublist _ _).map Prod.snd).count_le m) _
  · exact Nat.le_refl _

end

/-! ### One connection -/

section

variable [DecidableEq κ] {c c' : κ} {m : μ} {l l' : List (κ × μ)}

def msgsOn (c : κ) (l : List (κ × μ)) : List μ :=
  (l.filter fun e => e.1 = c).map Prod.snd

lemma msgsOn_append : msgsOn c (l ++ l') = msgsOn c l ++ msgsOn c l' := by
  simp [msgsOn]

lemma msgsOn_self (m : μ) : msgsOn c [(c, m)] = [m] := by
  simp [msgsOn]

lemma msgsOn_ne (h : c' ≠ c) (m : μ) : msgsOn c [(c', m)] = [] := by
  simp [msgsOn, h]

lemma msgsOn_sublist (h : l.Sublist l') : (msgsOn c l).Sublist (msgsOn c l') :=
  (h.filter _).map _

lemma msgsOn_perm (h : l.Perm l') : (msgsOn c l).Perm (msgsOn c l') :=
  (h.filter _).map _

lemma msgsOn_eraseP {ms : List μ} (h : msgsOn c l = m :: ms) :
    msgsOn c (l.eraseP fun e => e.1 = c) = ms := by
  induction l with
  | nil => exact absurd h.symm (List.cons_ne_nil m ms)
  | cons e l ih =>
    by_cases he : e.1 = c
    · simp [msgsOn, he] at h ⊢
      exact h.2
    · simp only [msgsOn, he, decide_false, Bool.false_eq_true, not_false_eq_true,
        List.filter_cons_of_neg, List.eraseP_cons_of_neg] at h ih ⊢
      exact ih h

end

variable [DecidableEq κ] {b b' : Confirms κ μ} {c c' : κ} {m : μ}

/-- The messages of a connection whose confirm has not been read. -/
def acked (b : Confirms κ μ) (c : κ) : List μ := msgsOn c b.acks

/-- The messages of a connection that are on their way, or whose confirm is. -/
def pending (b : Confirms κ μ) (c : κ) : List μ := msgsOn c (b.transit ++ b.acks)

def read (b : Confirms κ μ) (c : κ) : Option (Confirms κ μ) :=
  if b.acked c = [] then none else some { b with acks := b.acks.eraseP fun e => e.1 = c }

lemma acked_sublist_pending : (b.acked c).Sublist (b.pending c) := by
  rw [pending, msgsOn_append]
  exact List.sublist_append_right _ _

lemma pending_send_ne (h : c' ≠ c) (m : μ) : (b.send c' m).pending c = b.pending c := by
  simp only [pending, send, msgsOn_append, msgsOn_ne h, List.append_nil]

lemma pending_send_self (m : μ) : ((b.send c m).pending c).Perm (m :: b.pending c) := by
  simp only [pending, send, msgsOn_append, msgsOn_self, List.append_assoc]
  exact List.perm_middle

lemma read_eq_some (h : b.read c = some b') : ∃ m, b.acked c = m :: b'.acked c ∧
    b'.transit = b.transit ∧ b'.accepted = b.accepted := by
  rw [read] at h
  split_ifs at h with hne
  rw [← Option.some.inj h]
  obtain ⟨m, ms, hms⟩ := List.exists_cons_of_ne_nil hne
  exact ⟨m, hms.trans (congrArg _ (msgsOn_eraseP hms).symm), rfl, rfl⟩

/-! ### What is accepted -/

/-- An event puts a confirm behind the others of its connection just where it puts its message
behind the accepted ones. -/
lemma acked_step {e : Event} (h : b.step e = some b') {l : List μ}
    (hsub : (l ++ b.acked c).Sublist b.accepted) : (l ++ b'.acked c).Sublist b'.accepted := by
  rcases step_cases h with ⟨i, c', m, he, rfl⟩ | ⟨i, rfl⟩ | ⟨i, rfl⟩
  · show (l ++ msgsOn c (b.acks ++ [(c', m)])).Sublist (b.accepted ++ [m])
    rw [msgsOn_append]
    by_cases hc : c' = c
    · rw [hc, msgsOn_self, ← List.append_assoc]
      exact hsub.append_right [m]
    · rw [msgsOn_ne hc, List.append_nil]
      exact hsub.trans (List.sublist_append_left _ _)
  · exact hsub
  · exact ((List.Sublist.refl l).append (msgsOn_sublist (List.eraseIdx_sublist _ _))).trans hsub

lemma pending_step {e : Event} (h : b.step e = some b') : (b'.pending c).Subperm (b.pending c) := by
  rcases step_cases h with ⟨i, c', m, he, rfl⟩ | ⟨i, rfl⟩ | ⟨i, rfl⟩
  · apply List.Perm.subperm
    apply msgsOn_perm
    calc b.transit.eraseIdx i ++ (b.acks ++ [(c', m)])
      _ ~ b.transit.eraseIdx i ++ ([(c', m)] ++ b.acks) := List.perm_append_comm.append_left _
      _ = b.transit.eraseIdx i ++ [(c', m)] ++ b.acks := (List.append_assoc ..).symm
      _ ~ b.transit ++ b.acks := (eraseIdx_perm he).append_right _
  · apply List.Sublist.subperm
    apply msgsOn_sublist
    exact (List.eraseIdx_sublist _ _).append_right _
  · apply List.Sublist.subperm
    apply msgsOn_sublist
    exact (List.eraseIdx_sublist _ _).append_left _

lemma read_pending (h : b.read c = some b') : (b'.pending c').Subperm (b.pending c') := by
  rw [read] at h
  split_ifs at h
  rw [← Option.some.inj h]
  apply List.Sublist.subperm
  apply msgsOn_sublist
  exact List.eraseP_sublist.append_left _

/-- The only message that is pending is the one whose confirm is read, and then none is. -/
lemma read_lone (h : b.read c = some b') (hlone : (b.pending c).Subperm [m]) :
    b.acked c = m :: b'.acked c ∧ b'.pending c = [] := by
  obtain ⟨m', hacked, htransit, _⟩ := read_eq_some h
  have hmem : m' ∈ b.pending c :=
    acked_sublist_pending.subset (hacked ▸ List.mem_cons_self)
  have hm : m' = m := List.mem_singleton.mp (hlone.subset hmem)
  have hpending : b.pending c = msgsOn c b.transit ++ (m' :: b'.acked c) := by
    rw [pending, msgsOn_append, ← hacked]
    rfl
  have hlen := hlone.length_le
  rw [hpending, List.length_append, List.length_cons, List.length_singleton] at hlen
  refine ⟨hm ▸ hacked, ?_⟩
  rw [pending, msgsOn_append, htransit]
  exact List.append_eq_nil_iff.mpr
    ⟨List.length_eq_zero_iff.mp (by omega),
      List.length_eq_zero_iff.mp (show (b'.acked c).length = 0 by omega)⟩

end Confirms
