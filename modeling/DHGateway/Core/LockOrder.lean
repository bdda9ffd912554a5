import DHGateway.Core.Run
import DHGateway.Core.Threads
import Mathlib.Data.Finset.Max

/-!
# Locks that are taken in order

Threads take and release locks, and sleep until another one wakes them. If each takes a lock only
while it ranks above those that it holds, and holds none when it sleeps or is done, then they do
not block each other for good.
-/

inductive LockOp (L : Type*) where
  | acquire (l : L)
  | release (l : L)
  | sleep

/-- A thread with the locks that it holds and what it still does. -/
structure LockThread (L : Type*) where
  held : List L
  ops : List (LockOp L)

structure Locks (L : Type*) where
  threads : List (LockThread L)

/-- A thread that is done makes another call, goes on, or is woken up. -/
inductive LockAction (C : Type*) where
  | call (i : ℕ) (c : C)
  | advance (i : ℕ)
  | wake (i : ℕ)

def LockAction.Own {C : Type*} : LockAction C → Prop
  | .advance _ => True
  | .call _ _ | .wake _ => False

namespace LockThread

variable {L : Type*}

def Resting (t : LockThread L) : Prop :=
  t.held = [] ∧ (t.ops = [] ∨ t.ops.head? = some .sleep)

def wanted (t : LockThread L) : Option L :=
  match t.ops with
  | .acquire l :: _ => some l
  | _ => none

lemma not_resting_of_wanted {t : LockThread L} {l : L} (h : t.wanted = some l) :
    ¬ t.Resting := by
  rintro ⟨-, hops | hops⟩
  · rw [wanted, hops] at h
    exact nomatch h
  · obtain ⟨todo, hops⟩ := List.head?_eq_some_iff.mp hops
    rw [wanted, hops] at h
    exact nomatch h

end LockThread

section

variable {L : Type*} [DecidableEq L] {C : Type*}

/-! ### The discipline -/

/-- The locks that are held after an operation, which must be in order. -/
def LockOp.hold (rank : L → ℕ) (held : List L) : LockOp L → Option (List L)
  | .acquire l => if ∀ m ∈ held, rank m < rank l then some (l :: held) else none
  | .release l => if l ∈ held then some (held.erase l) else none
  | .sleep => if held = [] then some [] else none

/-- What a thread does is in order, and it holds nothing afterwards. -/
def LockOp.InOrder (rank : L → ℕ) (held : List L) (ops : List (LockOp L)) : Prop :=
  ops.foldlM (LockOp.hold rank) held = some []

namespace LockOp

variable {rank : L → ℕ} {held : List L} {ops : List (LockOp L)} {l : L}

lemma inOrder_nil : InOrder rank held [] ↔ held = [] := by
  rw [InOrder, List.foldlM_nil]
  exact Option.some_inj

lemma inOrder_acquire : InOrder rank held (.acquire l :: ops) ↔
    (∀ m ∈ held, rank m < rank l) ∧ InOrder rank (l :: held) ops := by
  rw [InOrder, List.foldlM_cons, hold]
  split_ifs with h
  · exact ⟨fun hops => ⟨h, hops⟩, fun hops => hops.2⟩
  · exact iff_of_false (by simp) fun hops => h hops.1

lemma inOrder_release : InOrder rank held (.release l :: ops) ↔
    l ∈ held ∧ InOrder rank (held.erase l) ops := by
  rw [InOrder, List.foldlM_cons, hold]
  split_ifs with h
  · exact ⟨fun hops => ⟨h, hops⟩, fun hops => hops.2⟩
  · exact iff_of_false (by simp) fun hops => h hops.1

lemma inOrder_sleep : InOrder rank held (.sleep :: ops) ↔ held = [] ∧ InOrder rank [] ops := by
  rw [InOrder, List.foldlM_cons, hold]
  split_ifs with h
  · exact ⟨fun hops => ⟨h, hops⟩, fun hops => hops.2⟩
  · exact iff_of_false (by simp) fun hops => h hops.1

def brief (l : L) : List (LockOp L) := [.acquire l, .release l]

def locked (l : L) (inner : List (LockOp L)) : List (LockOp L) :=
  .acquire l :: inner ++ [.release l]

/-- Operations that are in order with some locks held leave these as they were. -/
def Keeps (rank : L → ℕ) (held : List L) (ops : List (LockOp L)) : Prop :=
  ops.foldlM (hold rank) held = some held

lemma keeps_nil : Keeps rank held [] := rfl

lemma keeps_append {ops' : List (LockOp L)} (h : Keeps rank held ops)
    (h' : Keeps rank held ops') : Keeps rank held (ops ++ ops') := by
  rw [Keeps, List.foldlM_append, show ops.foldlM (hold rank) held = some held from h]
  exact h'

lemma keeps_flatMap {β : Type*} {bs : List β} {f : β → List (LockOp L)}
    (h : ∀ b ∈ bs, Keeps rank held (f b)) : Keeps rank held (bs.flatMap f) := by
  induction bs with
  | nil => exact keeps_nil
  | cons b bs ih =>
    rw [List.flatMap_cons]
    exact keeps_append (h b List.mem_cons_self) (ih fun b' hb' => h b' (List.mem_cons_of_mem b hb'))

lemma keeps_locked (hl : ∀ m ∈ held, rank m < rank l) (h : Keeps rank (l :: held) ops) :
    Keeps rank held (locked l ops) := by
  rw [Keeps, locked, List.cons_append, List.foldlM_cons, hold, if_pos hl]
  show (ops ++ [LockOp.release l]).foldlM (hold rank) (l :: held) = some held
  rw [List.foldlM_append, show ops.foldlM (hold rank) (l :: held) = some (l :: held) from h]
  show (if l ∈ l :: held then some ((l :: held).erase l) else none).bind _ = some held
  rw [if_pos List.mem_cons_self, List.erase_cons_head]
  rfl

lemma keeps_sleep (h : Keeps rank [] ops) : Keeps rank [] (.sleep :: ops) := h

lemma keeps_brief (hl : ∀ m ∈ held, rank m < rank l) : Keeps rank held (brief l) :=
  keeps_locked hl keeps_nil

end LockOp

/-! ### Running -/

namespace Locks

def Free (s : Locks L) (l : L) : Prop := ∀ t ∈ s.threads, l ∉ t.held

instance (s : Locks L) (l : L) : Decidable (s.Free l) := by unfold Free; infer_instance

def start (n : ℕ) : Locks L := ⟨List.replicate n ⟨[], []⟩⟩

def move (s : Locks L) (i : ℕ) (t : LockThread L) : Locks L := ⟨s.threads.set i t⟩

/-- A thread goes on: it takes a lock when nobody has it. -/
def next (s : Locks L) (t : LockThread L) : Option (LockThread L) :=
  match t.ops with
  | .acquire l :: ops => if s.Free l then some ⟨l :: t.held, ops⟩ else none
  | .release l :: ops => some ⟨t.held.erase l, ops⟩
  | .sleep :: _ | [] => none

/-- One step, where `ops` is what a call does. -/
def step (ops : C → List (LockOp L)) (s : Locks L) : LockAction C → Option (Locks L)
  | .call i c => do
    let t ← s.threads[i]?
    if t.ops.isEmpty then some (s.move i ⟨t.held, ops c⟩) else none
  | .advance i => do
    let t ← s.threads[i]?
    (s.next t).map (s.move i)
  | .wake i => do
    let t ← s.threads[i]?
    match t.ops with
    | .sleep :: ops => some (s.move i ⟨t.held, ops⟩)
    | _ => none

def left (s : Locks L) : ℕ := (s.threads.map fun t => t.ops.length).sum

def Disciplined (rank : L → ℕ) (s : Locks L) : Prop :=
  ∀ t ∈ s.threads, LockOp.InOrder rank t.held t.ops

variable {rank : L → ℕ} {ops : C → List (LockOp L)} {s s' : Locks L}

lemma Disciplined.move {i : ℕ} {t : LockThread L} (h : s.Disciplined rank)
    (ht : LockOp.InOrder rank t.held t.ops) : (s.move i t).Disciplined rank := by
  intro u hu
  rcases List.mem_or_eq_of_mem_set hu with hu | rfl
  · exact h u hu
  · exact ht

lemma next_inOrder {t t' : LockThread L} (ht : LockOp.InOrder rank t.held t.ops)
    (hn : s.next t = some t') :
    LockOp.InOrder rank t'.held t'.ops ∧ t'.ops.length < t.ops.length := by
  obtain ⟨held, todo⟩ := t
  cases todo with
  | nil => exact nomatch hn
  | cons op todo =>
    cases op with
    | sleep => exact nomatch hn
    | acquire l =>
      simp only [next] at hn
      split_ifs at hn
      rw [← Option.some.inj hn]
      exact ⟨(LockOp.inOrder_acquire.mp ht).2, Nat.lt_succ_self _⟩
    | release l =>
      rw [← Option.some.inj hn]
      exact ⟨(LockOp.inOrder_release.mp ht).2, Nat.lt_succ_self _⟩

lemma Disciplined.step {a : LockAction C} (hops : ∀ c, LockOp.InOrder rank [] (ops c))
    (h : s.Disciplined rank) (hs : s.step ops a = some s') : s'.Disciplined rank := by
  cases a with
  | call i c =>
    obtain ⟨⟨held, todo⟩, hi, hs⟩ := Option.bind_eq_some_iff.mp hs
    have ht := h _ (List.mem_of_getElem? hi)
    split_ifs at hs with hempty
    obtain rfl := List.isEmpty_iff.mp hempty
    obtain rfl := LockOp.inOrder_nil.mp ht
    rw [← Option.some.inj hs]
    exact h.move (hops c)
  | advance i =>
    obtain ⟨t, hi, hs⟩ := Option.bind_eq_some_iff.mp hs
    obtain ⟨t', hn, rfl⟩ := Option.map_eq_some_iff.mp hs
    exact h.move (next_inOrder (h t (List.mem_of_getElem? hi)) hn).1
  -- only a thread without locks sleeps
  | wake i =>
    obtain ⟨⟨held, todo⟩, hi, hs⟩ := Option.bind_eq_some_iff.mp hs
    have ht := h _ (List.mem_of_getElem? hi)
    dsimp only at hs
    split at hs
    · rw [← Option.some.inj hs]
      obtain ⟨rfl, ht⟩ := LockOp.inOrder_sleep.mp ht
      exact h.move ht
    · exact nomatch hs

lemma left_advance {a : LockAction C} (h : s.Disciplined rank) (ha : a.Own)
    (hs : s.step ops a = some s') : s'.left < s.left := by
  cases a with
  | call | wake => exact ha.elim
  | advance i =>
    obtain ⟨t, hi, hs⟩ := Option.bind_eq_some_iff.mp hs
    obtain ⟨t', hn, rfl⟩ := Option.map_eq_some_iff.mp hs
    have hlt := (next_inOrder (h t (List.mem_of_getElem? hi)) hn).2
    have hsum := Threads.sum_map_set (fun t : LockThread L => t.ops.length) t' hi
    simp only [left, move]
    omega

/-- A thread that cannot go on and does not rest waits for a lock that somebody holds, which ranks
above those that it holds itself. -/
lemma Disciplined.blocked (h : s.Disciplined rank) {t : LockThread L} (ht : t ∈ s.threads)
    (hn : s.next t = none) (hrest : ¬ t.Resting) :
    ∃ l, t.wanted = some l ∧ (∀ m ∈ t.held, rank m < rank l) ∧ ∃ u ∈ s.threads, l ∈ u.held := by
  have horder := h t ht
  obtain ⟨held, todo⟩ := t
  cases todo with
  | nil => exact absurd ⟨LockOp.inOrder_nil.mp horder, Or.inl rfl⟩ hrest
  | cons op todo =>
    cases op with
    | sleep => exact absurd ⟨(LockOp.inOrder_sleep.mp horder).1, Or.inr rfl⟩ hrest
    | release l => exact nomatch hn
    | acquire l =>
      refine ⟨l, rfl, (LockOp.inOrder_acquire.mp horder).1, ?_⟩
      simp only [next] at hn
      split_ifs at hn with hfree
      rw [Free] at hfree
      push Not at hfree
      exact hfree

/-- Some thread can go on, or all rest. -/
theorem Disciplined.exists_advance (h : s.Disciplined rank) :
    (∃ (i : ℕ) (t : LockThread L), s.threads[i]? = some t ∧ s.next t ≠ none) ∨
      ∀ t ∈ s.threads, t.Resting := by
  by_contra hstuck
  push Not at hstuck
  obtain ⟨hnone, t, ht, hrest⟩ := hstuck
  have hblocked : ∀ u ∈ s.threads, ¬ u.Resting →
      ∃ l, u.wanted = some l ∧ (∀ m ∈ u.held, rank m < rank l) ∧
        ∃ v ∈ s.threads, l ∈ v.held := by
    intro u hu hrest
    obtain ⟨i, hi⟩ := List.getElem?_of_mem hu
    exact h.blocked hu (hnone i u hi) hrest
  -- whoever holds the highest of the locks that are waited for waits for a higher one
  have hmem : ∀ u ∈ s.threads, ∀ l, u.wanted = some l →
      l ∈ (s.threads.filterMap LockThread.wanted).toFinset := fun u hu l hl =>
    List.mem_toFinset.mpr (List.mem_filterMap.mpr ⟨u, hu, hl⟩)
  obtain ⟨l, hl, -⟩ := hblocked t ht hrest
  obtain ⟨top, htop, hmax⟩ := Finset.exists_max_image _ rank ⟨l, hmem t ht l hl⟩
  obtain ⟨u, hu, hwanted⟩ := List.mem_filterMap.mp (List.mem_toFinset.mp htop)
  obtain ⟨top', htop', -, v, hv, hheld⟩ :=
    hblocked u hu (LockThread.not_resting_of_wanted hwanted)
  obtain rfl := Option.some.inj (hwanted.symm.trans htop')
  have hbusy : ¬ v.Resting := fun hrest => List.ne_nil_of_mem hheld hrest.1
  obtain ⟨m, hm, hlt, -⟩ := hblocked v hv hbusy
  exact absurd (hmax m (hmem v hv m hm)) (Nat.not_le.mpr (hlt top hheld))

lemma disciplined_start (n : ℕ) : (start n : Locks L).Disciplined rank := by
  intro t ht
  rw [List.eq_of_mem_replicate ht]
  exact LockOp.inOrder_nil.mpr rfl

/-- In every run of calls that are in order, what the threads do by themselves comes to an end, and
one of them can go on until all are done or sleep, without a lock. -/
theorem never_block (hops : ∀ c, LockOp.InOrder rank [] (ops c)) {n : ℕ}
    {as : List (LockAction C)} (hrun : Run.run (step ops) (start n) as = some s) :
    (∀ bs t, (∀ b ∈ bs, b.Own) → Run.run (step ops) s bs = some t → bs.length ≤ s.left) ∧
      ((∃ i s', s.step ops (.advance i) = some s') ∨ ∀ t ∈ s.threads, t.Resting) := by
  have h : s.Disciplined rank :=
    Run.reachable_invariant (fun _ _ _ h hs => Disciplined.step hops h hs) (disciplined_start n)
      hrun
  constructor
  · intro bs t hown hbs
    have hmeets : Run.Meets (step ops) (fun _ a => a.Own) s bs :=
      Run.meets_of_forall (fun a ha _ => hown a ha) s
    have hle := Run.length_le_of_decreasing (fun s a s' (h : s.Disciplined rank) ha hs =>
      ⟨h.step hops hs, left_advance h ha hs⟩) h hmeets hbs
    omega
  · refine h.exists_advance.imp_left ?_
    rintro ⟨i, t, hi, hn⟩
    obtain ⟨t', ht'⟩ := Option.ne_none_iff_exists'.mp hn
    exact ⟨i, s.move i t', by simp only [step, hi, Option.bind_eq_bind, Option.bind_some, ht',
      Option.map_some]⟩

end Locks

end
