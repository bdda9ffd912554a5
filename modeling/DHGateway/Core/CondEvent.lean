import DHGateway.Core.Run
import DHGateway.Core.Threads

/-!
# A counting event made of a mutex and a condition variable

The count is read and changed under the mutex. A thread that signals adds to the count and wakes one
sleeper, or all of them if it added more than one unit; a thread that waits sleeps as long as it
finds the count zero, and the mutex is free while it sleeps. Sleepers also wake for no reason.
-/

/-- Where a thread is: in neither call, in `signal` or in `wait`. -/
inductive CondEvent.Thread where
  | idle
  | lockToSignal (n : ℕ)
  | add (n : ℕ)
  | notify (n : ℕ)
  | unlockSignal
  | lockToWait
  | test
  | asleep
  | woken
  | take
  | unlockWait
  deriving DecidableEq

/-- What a call does to the count, at once. -/
inductive CondEvent.Op where
  | signal (n : ℕ)
  | wait
  deriving DecidableEq

/-- The count, the mutex, the threads, and what was done to the count so far. -/
structure CondEvent where
  count : ℕ
  locked : Bool
  threads : List CondEvent.Thread
  ops : List CondEvent.Op

/-- A thread calls `signal` or `wait`, makes its next step (which names the sleeper that it wakes if
it wakes one), or wakes for no reason. -/
inductive CondEvent.Action where
  | signal (i n : ℕ)
  | wait (i : ℕ)
  | advance (i sleeper : ℕ)
  | spurious (i : ℕ)

namespace CondEvent

/-- The counting event itself: a count that is not taken from when it is zero. -/
def Op.step (count : ℕ) : Op → Option ℕ
  | .signal n => some (count + n)
  | .wait => if count = 0 then none else some (count - 1)

/-- No call yet, with `k` threads. -/
def start (k : ℕ) : CondEvent := ⟨0, false, List.replicate k .idle, []⟩

/-- A sleeper that is notified tries to get the mutex back. -/
def Thread.wake : Thread → Thread
  | .asleep => .woken
  | t => t

/-- `notify_one` for one unit, which does nothing if nobody sleeps, or else `notify_all`. -/
def notified (n sleeper : ℕ) (threads : List Thread) : Option (List Thread) :=
  if n = 1 then
    if threads[sleeper]? = some .asleep then some (threads.set sleeper .woken)
    else if .asleep ∈ threads then none
    else some threads
  else some (threads.map Thread.wake)

def move (s : CondEvent) (i : ℕ) (t : Thread) : CondEvent :=
  { s with threads := s.threads.set i t }

def lock (s : CondEvent) (i : ℕ) (t : Thread) : Option CondEvent :=
  if s.locked then none else some { s.move i t with locked := true }

def unlock (s : CondEvent) (i : ℕ) (t : Thread) : CondEvent :=
  { s.move i t with locked := false }

def advance (s : CondEvent) (i sleeper : ℕ) : Thread → Option CondEvent
  | .lockToSignal n => s.lock i (.add n)
  | .add n => some { s.move i (.notify n) with count := s.count + n, ops := s.ops ++ [.signal n] }
  | .notify n => (notified n sleeper s.threads).map fun threads =>
      move { s with threads } i .unlockSignal
  | .unlockSignal => some (s.unlock i .idle)
  | .lockToWait => s.lock i .test
  | .test => some (if s.count = 0 then s.unlock i .asleep else s.move i .take)
  | .woken => s.lock i .test
  | .take => some { s.move i .unlockWait with count := s.count - 1, ops := s.ops ++ [.wait] }
  | .unlockWait => some (s.unlock i .idle)
  | .idle | .asleep => none

def step (s : CondEvent) : Action → Option CondEvent
  | .signal i n => if s.threads[i]? = some .idle then some (s.move i (.lockToSignal n)) else none
  | .wait i => if s.threads[i]? = some .idle then some (s.move i .lockToWait) else none
  | .advance i sleeper => s.threads[i]?.bind (s.advance i sleeper)
  | .spurious i => if s.threads[i]? = some .asleep then some (s.move i .woken) else none

/-! ### What a step comes to -/

/-- Where a thread that asks for the mutex goes on with it. -/
inductive Locks : Thread → Thread → Prop
  | signal (n : ℕ) : Locks (.lockToSignal n) (.add n)
  | wait : Locks .lockToWait .test
  | woken : Locks .woken .test

inductive Advance (s : CondEvent) (i : ℕ) : Thread → CondEvent → Prop
  | lock {t t' : Thread} (ht : Locks t t') (h : s.locked = false) :
    Advance s i t { s.move i t' with locked := true }
  | add {n : ℕ} : Advance s i (.add n)
      { s.move i (.notify n) with count := s.count + n, ops := s.ops ++ [.signal n] }
  | notifyOne {j : ℕ} (hj : s.threads[j]? = some .asleep) :
    Advance s i (.notify 1) ((s.move j .woken).move i .unlockSignal)
  | notifyNone (h : .asleep ∉ s.threads) : Advance s i (.notify 1) (s.move i .unlockSignal)
  | notifyAll {n : ℕ} (hn : n ≠ 1) : Advance s i (.notify n)
      (move { s with threads := s.threads.map Thread.wake } i .unlockSignal)
  | unlockSignal : Advance s i .unlockSignal (s.unlock i .idle)
  | sleep (h : s.count = 0) : Advance s i .test (s.unlock i .asleep)
  | pass (h : 0 < s.count) : Advance s i .test (s.move i .take)
  | take : Advance s i .take
      { s.move i .unlockWait with count := s.count - 1, ops := s.ops ++ [.wait] }
  | unlockWait : Advance s i .unlockWait (s.unlock i .idle)

variable {s s' : CondEvent} {i j : ℕ} {t : Thread}

lemma advance_lock {t' : Thread} (ht : Locks t t') (h : s.lock i t' = some s') :
    Advance s i t s' := by
  rw [lock] at h
  split_ifs at h with hl
  rw [← Option.some.inj h]
  exact .lock ht (Bool.not_eq_true _ ▸ hl)

lemma advance_cases (h : s.advance i j t = some s') : Advance s i t s' := by
  cases t with
  | idle | asleep => exact nomatch h
  | lockToSignal n => exact advance_lock (.signal n) h
  | lockToWait => exact advance_lock .wait h
  | woken => exact advance_lock .woken h
  | add n => exact Option.some.inj h ▸ .add
  | unlockSignal => exact Option.some.inj h ▸ .unlockSignal
  | take => exact Option.some.inj h ▸ .take
  | unlockWait => exact Option.some.inj h ▸ .unlockWait
  | test =>
    rw [← Option.some.inj h]
    split_ifs with h0
    · exact .sleep h0
    · exact .pass (Nat.pos_of_ne_zero h0)
  | notify n =>
    obtain ⟨threads, hn, rfl⟩ := Option.map_eq_some_iff.mp h
    rw [notified] at hn
    split_ifs at hn with h1 hj hno
    · rw [← Option.some.inj hn, h1]
      exact .notifyOne hj
    · rw [← Option.some.inj hn, h1]
      exact .notifyNone hno
    · rw [← Option.some.inj hn]
      exact .notifyAll h1

lemma step_advance (h : s.step (.advance i j) = some s') :
    ∃ t, s.threads[i]? = some t ∧ Advance s i t s' := by
  obtain ⟨t, ht, hs⟩ := Option.bind_eq_some_iff.mp h
  exact ⟨t, ht, advance_cases hs⟩

lemma step_signal {n : ℕ} (h : s.step (.signal i n) = some s') :
    s.threads[i]? = some .idle ∧ s' = s.move i (.lockToSignal n) := by
  rw [CondEvent.step] at h
  split_ifs at h with hi
  exact ⟨hi, (Option.some.inj h).symm⟩

lemma step_wait (h : s.step (.wait i) = some s') :
    s.threads[i]? = some .idle ∧ s' = s.move i .lockToWait := by
  rw [CondEvent.step] at h
  split_ifs at h with hi
  exact ⟨hi, (Option.some.inj h).symm⟩

lemma step_spurious (h : s.step (.spurious i) = some s') :
    s.threads[i]? = some .asleep ∧ s' = s.move i .woken := by
  rw [CondEvent.step] at h
  split_ifs at h with hi
  exact ⟨hi, (Option.some.inj h).symm⟩

/-! ### The invariant -/

def Thread.holds : Thread → ℕ
  | .add _ | .notify _ | .unlockSignal | .test | .take | .unlockWait => 1
  | .idle | .lockToSignal _ | .lockToWait | .asleep | .woken => 0

/-- The units that a thread is about to take, or to wake others for. -/
def Thread.coming : Thread → ℕ
  | .notify n => n
  | .test | .woken | .take => 1
  | .idle | .lockToSignal _ | .add _ | .unlockSignal | .lockToWait | .asleep | .unlockWait => 0

lemma Thread.holds_ne_one (t : Thread) (h : t.holds ≠ 1) : t.holds = 0 := by
  cases t <;> first | rfl | exact absurd rfl h

lemma Thread.wake_holds (t : Thread) : t.wake.holds = t.holds := by
  cases t <;> rfl

lemma Thread.wake_ne_asleep (t : Thread) : t.wake ≠ .asleep := by
  cases t <;> exact Thread.noConfusion

/-- One thread at most has the mutex, what was done to the count is what a counting event allows,
and where somebody sleeps, each unit has a thread on its way to it. -/
structure Inv (s : CondEvent) : Prop where
  mutex : (s.threads.map Thread.holds).sum = s.locked.toNat
  ops : Run.run Op.step 0 s.ops = some s.count
  take : .take ∈ s.threads → 0 < s.count
  covered : .asleep ∈ s.threads → s.count ≤ (s.threads.map Thread.coming).sum

lemma inv_start (k : ℕ) : (start k).Inv where
  mutex := by simp [start, Thread.holds]
  ops := rfl
  take := fun h => absurd (List.eq_of_mem_replicate h) Thread.noConfusion
  covered := fun _ => Nat.zero_le _

lemma Inv.alone (h : s.Inv) {t' : Thread} (hi : s.threads[i]? = some t)
    (hj : s.threads[j]? = some t') (ht : t.holds = 1) (ht' : t'.holds = 1) : i = j := by
  by_contra hij
  have hset := Threads.sum_map_set Thread.holds .idle hi
  have hj' : (s.threads.set i .idle)[j]? = some t' := (List.getElem?_set_ne hij).trans hj
  have hle := Threads.le_sum_map Thread.holds hj'
  have hbool : s.locked.toNat ≤ 1 := Bool.toNat_le s.locked
  have hidle : Thread.idle.holds = 0 := rfl
  rw [h.mutex] at hset
  omega

lemma Inv.locked (h : s.Inv) (hi : s.threads[i]? = some t) (ht : t.holds = 1) :
    s.locked = true := by
  have hle := Threads.le_sum_map Thread.holds hi
  rw [h.mutex, ht] at hle
  cases hl : s.locked with
  | true => rfl
  | false => simp [hl] at hle

lemma Inv.moved (h : s.Inv) (hi : s.threads[i]? = some t) {t' : Thread} {b : Bool}
    (hmutex : s.locked.toNat + t'.holds = b.toNat + t.holds) (htake : t' = .take → 0 < s.count)
    (hcoming : s.count = 0 ∨ t' ≠ .asleep ∧ t.coming ≤ t'.coming) :
    Inv { s.move i t' with locked := b } where
  mutex := by
    have hset := Threads.sum_map_set Thread.holds t' hi
    rw [h.mutex] at hset
    show ((s.threads.set i t').map Thread.holds).sum = b.toNat
    omega
  ops := h.ops
  take := by
    intro hmem
    rcases List.mem_or_eq_of_mem_set hmem with hmem | heq
    · exact h.take hmem
    · exact htake heq.symm
  covered := by
    intro hmem
    show s.count ≤ ((s.threads.set i t').map Thread.coming).sum
    rcases hcoming with h0 | ⟨hne, hle⟩
    · exact h0 ▸ Nat.zero_le _
    · have hold := (List.mem_or_eq_of_mem_set hmem).resolve_right hne.symm
      have hset := Threads.sum_map_set Thread.coming t' hi
      have hcov := h.covered hold
      omega

lemma Inv.add {n : ℕ} (h : s.Inv) (hi : s.threads[i]? = some (.add n)) :
    Inv { s.move i (.notify n) with count := s.count + n, ops := s.ops ++ [.signal n] } := by
  have hmoved : Inv { s.move i (.notify n) with locked := s.locked } :=
    h.moved hi rfl nofun (.inr ⟨nofun, Nat.zero_le n⟩)
  refine ⟨hmoved.mutex, Run.run_append h.ops rfl, fun hmem => ?_, fun hmem => ?_⟩
  · exact Nat.add_pos_left (hmoved.take hmem) n
  · have hold := (List.mem_or_eq_of_mem_set hmem).resolve_right nofun
    have hset := Threads.sum_map_set Thread.coming (.notify n) hi
    simp only [Thread.coming, Nat.add_zero] at hset
    show s.count + n ≤ ((s.threads.set i (.notify n)).map Thread.coming).sum
    rw [hset]
    exact Nat.add_le_add_right (h.covered hold) n

/-- A unit is taken: no other thread holds one in view, since the mutex is held. -/
lemma Inv.taken (h : s.Inv) (hi : s.threads[i]? = some .take) :
    Inv { s.move i .unlockWait with count := s.count - 1, ops := s.ops ++ [.wait] } := by
  have hpos := h.take (List.mem_of_getElem? hi)
  constructor
  · have hset := Threads.sum_map_set Thread.holds .unlockWait hi
    simp only [Thread.holds] at hset
    exact (Nat.add_right_cancel hset).trans h.mutex
  · refine Run.run_append h.ops (Run.run_cons.mpr ⟨s.count - 1, ?_, rfl⟩)
    rw [Op.step, if_neg hpos.ne']
  · intro hmem
    obtain ⟨j, hj⟩ := List.getElem?_of_mem hmem
    rcases Threads.getElem?_set_cases hj with ⟨_, heq⟩ | ⟨hne, hj⟩
    · exact nomatch heq
    · -- another thread about to take a unit would hold the mutex too
      exact absurd (h.alone hj hi rfl rfl) hne
  · intro hmem
    have hold := (List.mem_or_eq_of_mem_set hmem).resolve_right nofun
    have hset := Threads.sum_map_set Thread.coming .unlockWait hi
    simp only [Thread.coming, Nat.add_zero] at hset
    have hcov := h.covered hold
    show s.count - 1 ≤ ((s.threads.set i .unlockWait).map Thread.coming).sum
    omega

lemma getElem?_wake (hi : s.threads[i]? = some (.notify 1)) (hj : s.threads[j]? = some .asleep) :
    (s.move j .woken).threads[i]? = some (.notify 1) := by
  have hne : j ≠ i := by
    rintro rfl
    exact nomatch hi.symm.trans hj
  exact (List.getElem?_set_ne hne).trans hi

lemma getElem?_wakeAll {n : ℕ} (hi : s.threads[i]? = some (.notify n)) :
    (s.threads.map Thread.wake)[i]? = some (.notify n) := by
  rw [List.getElem?_map, hi]
  rfl

lemma Inv.notifyOne (h : s.Inv) (hi : s.threads[i]? = some (.notify 1))
    (hj : s.threads[j]? = some .asleep) : ((s.move j .woken).move i .unlockSignal).Inv := by
  have hi' := getElem?_wake hi hj
  have hwoken : (s.move j .woken).Inv :=
    h.moved (b := s.locked) hj rfl nofun (.inr ⟨nofun, Nat.zero_le 1⟩)
  refine ⟨?_, h.ops, fun hmem => ?_, fun hmem => ?_⟩
  · have hset := Threads.sum_map_set Thread.holds .unlockSignal hi'
    simp only [Thread.holds] at hset
    exact (Nat.add_right_cancel hset).trans hwoken.mutex
  · exact hwoken.take ((List.mem_or_eq_of_mem_set hmem).resolve_right nofun)
  · have hset := Threads.sum_map_set Thread.coming .unlockSignal hi'
    have hset' := Threads.sum_map_set Thread.coming .woken hj
    have hcov := h.covered (List.mem_of_getElem? hj)
    simp only [Thread.coming, move] at hset hset'
    show s.count ≤ (((s.threads.set j .woken).set i .unlockSignal).map Thread.coming).sum
    omega

lemma Inv.notifyNone (h : s.Inv) (hi : s.threads[i]? = some (.notify 1))
    (hno : .asleep ∉ s.threads) : (s.move i .unlockSignal).Inv := by
  refine ⟨?_, h.ops, fun hmem => ?_, fun hmem => ?_⟩
  · have hset := Threads.sum_map_set Thread.holds .unlockSignal hi
    simp only [Thread.holds] at hset
    exact (Nat.add_right_cancel hset).trans h.mutex
  · exact h.take ((List.mem_or_eq_of_mem_set hmem).resolve_right nofun)
  · exact absurd ((List.mem_or_eq_of_mem_set hmem).resolve_right nofun) hno

lemma Inv.notifyAll {n : ℕ} (h : s.Inv) (hi : s.threads[i]? = some (.notify n)) :
    Inv (move { s with threads := s.threads.map Thread.wake } i .unlockSignal) := by
  have hi' := getElem?_wakeAll hi
  have hholds : Thread.holds ∘ Thread.wake = Thread.holds := funext Thread.wake_holds
  refine ⟨?_, h.ops, fun hmem => ?_, fun hmem => ?_⟩
  · have hset := Threads.sum_map_set Thread.holds .unlockSignal hi'
    rw [List.map_map, hholds] at hset
    simp only [Thread.holds] at hset
    exact (Nat.add_right_cancel hset).trans h.mutex
  · have hold := (List.mem_or_eq_of_mem_set hmem).resolve_right nofun
    obtain ⟨t, ht, hwake⟩ := List.mem_map.mp hold
    cases t with
    | take => exact h.take ht
    | _ => exact nomatch hwake
  · have hold := (List.mem_or_eq_of_mem_set hmem).resolve_right nofun
    obtain ⟨t, _, hwake⟩ := List.mem_map.mp hold
    exact absurd hwake t.wake_ne_asleep

lemma Inv.advance (h : s.Inv) (hi : s.threads[i]? = some t) (ha : Advance s i t s') : s'.Inv := by
  cases ha with
  | lock ht hl =>
    cases ht with
    | signal n => exact h.moved hi (by rw [hl]; rfl) nofun (.inr ⟨nofun, Nat.le_refl 0⟩)
    | wait => exact h.moved hi (by rw [hl]; rfl) nofun (.inr ⟨nofun, Nat.zero_le 1⟩)
    | woken => exact h.moved hi (by rw [hl]; rfl) nofun (.inr ⟨nofun, Nat.le_refl 1⟩)
  | add => exact h.add hi
  | notifyOne hj => exact h.notifyOne hi hj
  | notifyNone hno => exact h.notifyNone hi hno
  | notifyAll => exact h.notifyAll hi
  | unlockSignal =>
    exact h.moved hi (by rw [h.locked hi rfl]; rfl) nofun (.inr ⟨nofun, Nat.le_refl 0⟩)
  | sleep h0 => exact h.moved hi (by rw [h.locked hi rfl]; rfl) nofun (.inl h0)
  | pass hpos => exact h.moved (b := s.locked) hi rfl (fun _ => hpos) (.inr ⟨nofun, Nat.le_refl 1⟩)
  | take => exact h.taken hi
  | unlockWait =>
    exact h.moved hi (by rw [h.locked hi rfl]; rfl) nofun (.inr ⟨nofun, Nat.le_refl 0⟩)

lemma Inv.step {a : Action} (h : s.Inv) (hs : s.step a = some s') : s'.Inv := by
  cases a with
  | signal i n =>
    obtain ⟨hi, rfl⟩ := step_signal hs
    exact h.moved (b := s.locked) hi rfl nofun (.inr ⟨nofun, Nat.le_refl 0⟩)
  | wait i =>
    obtain ⟨hi, rfl⟩ := step_wait hs
    exact h.moved (b := s.locked) hi rfl nofun (.inr ⟨nofun, Nat.le_refl 0⟩)
  | advance i j =>
    obtain ⟨t, hi, ha⟩ := step_advance hs
    exact h.advance hi ha
  | spurious i =>
    obtain ⟨hi, rfl⟩ := step_spurious hs
    exact h.moved (b := s.locked) hi rfl nofun (.inr ⟨nofun, Nat.zero_le 1⟩)

lemma inv_of_run {k : ℕ} {as : List Action} (h : Run.run step (start k) as = some s) : s.Inv :=
  Run.reachable_invariant (fun _ _ _ h hs => h.step hs) (inv_start k) h

/-! ### Nobody is left asleep -/

def Resting (s : CondEvent) : Prop :=
  ∀ t ∈ s.threads, t = .idle ∨ t = .asleep

/-- At rest, nothing that belongs to a call is left. -/
lemma Resting.sum_eq_zero (h : s.Resting) {f : Thread → ℕ} (hidle : f .idle = 0)
    (hasleep : f .asleep = 0) : (s.threads.map f).sum = 0 := by
  apply List.sum_eq_zero_iff_forall_eq_nat.mpr
  intro k hk
  obtain ⟨t, ht, rfl⟩ := List.mem_map.mp hk
  rcases h t ht with rfl | rfl
  · exact hidle
  · exact hasleep

/-- A unit that is there does not let anybody sleep. -/
theorem Inv.count_eq_zero (h : s.Inv) (hrest : s.Resting) (hmem : .asleep ∈ s.threads) :
    s.count = 0 := by
  have hsum : (s.threads.map Thread.coming).sum = 0 := hrest.sum_eq_zero rfl rfl
  exact Nat.le_zero.mp (hsum ▸ h.covered hmem)

lemma exists_notified (n : ℕ) (threads : List Thread) :
    ∃ j threads', notified n j threads = some threads' := by
  by_cases hn : n = 1
  · by_cases hmem : .asleep ∈ threads
    · obtain ⟨j, hj⟩ := List.getElem?_of_mem hmem
      exact ⟨j, threads.set j .woken, by rw [notified, if_pos hn, if_pos hj]⟩
    · refine ⟨0, threads, ?_⟩
      rw [notified, if_pos hn, if_neg (fun h => hmem (List.mem_of_getElem? h)), if_neg hmem]
  · exact ⟨0, threads.map Thread.wake, by rw [notified, if_neg hn]⟩

lemma exists_advance_of_holds (ht : t.holds = 1) : ∃ j s', s.advance i j t = some s' := by
  cases t with
  | idle | lockToSignal | lockToWait | asleep | woken => exact nomatch ht
  | add | unlockSignal | test | take | unlockWait => exact ⟨0, _, rfl⟩
  | notify n =>
    obtain ⟨j, threads, hj⟩ := exists_notified n s.threads
    exact ⟨j, _, by rw [CondEvent.advance, hj]; rfl⟩

lemma exists_advance_of_free (hl : s.locked = false) (ht : t.holds ≠ 1) (hidle : t ≠ .idle)
    (hasleep : t ≠ .asleep) : ∃ s', s.advance i j t = some s' := by
  have hlock : ∀ t', ∃ s', s.lock i t' = some s' := fun t' => ⟨_, by rw [lock, hl]; rfl⟩
  cases t with
  | idle => exact absurd rfl hidle
  | asleep => exact absurd rfl hasleep
  | lockToSignal n => exact hlock _
  | lockToWait => exact hlock _
  | woken => exact hlock _
  | _ => exact absurd rfl ht

/-- As long as some thread is in a call and not asleep, some thread has a step to make. -/
theorem Inv.exists_advance (h : s.Inv) (hrest : ¬ s.Resting) :
    ∃ i j s', s.step (.advance i j) = some s' := by
  have hstep : ∀ {i t}, s.threads[i]? = some t → (∃ j s', s.advance i j t = some s') →
      ∃ i j s', s.step (.advance i j) = some s' := by
    rintro i t hi ⟨j, s', hs⟩
    exact ⟨i, j, s', by rw [CondEvent.step, hi, Option.bind_some, hs]⟩
  cases hl : s.locked with
  | true =>
    -- the thread that has the mutex goes on
    obtain ⟨t, ht, hone⟩ : ∃ t ∈ s.threads, t.holds = 1 := by
      by_contra hnone
      have hsum : (s.threads.map Thread.holds).sum = 0 := by
        apply List.sum_eq_zero_iff_forall_eq_nat.mpr
        intro k hk
        obtain ⟨t, ht, rfl⟩ := List.mem_map.mp hk
        exact t.holds_ne_one fun hone => hnone ⟨t, ht, hone⟩
      rw [h.mutex, hl] at hsum
      exact nomatch hsum
    obtain ⟨i, hi⟩ := List.getElem?_of_mem ht
    exact hstep hi (exists_advance_of_holds hone)
  | false =>
    obtain ⟨t, ht, hne⟩ : ∃ t ∈ s.threads, ¬ (t = .idle ∨ t = .asleep) := by
      simpa [Resting] using hrest
    obtain ⟨i, hi⟩ := List.getElem?_of_mem ht
    have hfree : t.holds ≠ 1 := fun hone => by
      rw [h.locked hi hone] at hl
      exact nomatch hl
    obtain ⟨s', hs⟩ := exists_advance_of_free (s := s) (i := i) (j := 0) hl hfree
      (fun h => hne (.inl h)) (fun h => hne (.inr h))
    exact hstep hi ⟨0, s', hs⟩

/-! ### How far the threads are -/

/-- What a thread may yet do on its own, where it can wake `k` others. -/
def Thread.left (k : ℕ) : Thread → ℕ
  | .lockToSignal _ => 4 * k + 4
  | .add _ => 4 * k + 3
  | .notify _ => 4 * k + 2
  | .lockToWait | .woken => 4
  | .test => 3
  | .take => 2
  | .unlockSignal | .unlockWait => 1
  | .idle | .asleep => 0

def left (s : CondEvent) : ℕ :=
  (s.threads.map (Thread.left s.threads.length)).sum

lemma left_move (hi : s.threads[i]? = some t) (t' : Thread) :
    (s.move i t').left + t.left s.threads.length = s.left + t'.left s.threads.length := by
  have hset := Threads.sum_map_set (Thread.left s.threads.length) t' hi
  rw [left, move, List.length_set]
  exact hset

lemma Thread.left_wake_le (k : ℕ) (t : Thread) : t.wake.left k ≤ t.left k + 4 := by
  cases t <;> simp [Thread.wake, Thread.left]

lemma sum_left_wake_le (k : ℕ) (threads : List Thread) :
    ((threads.map Thread.wake).map (Thread.left k)).sum ≤
      (threads.map (Thread.left k)).sum + 4 * threads.length := by
  induction threads with
  | nil => exact Nat.le_refl 0
  | cons t threads ih =>
    have ht := Thread.left_wake_le k t
    simp only [List.map_cons, List.sum_cons, List.length_cons]
    omega

lemma left_notifyOne (hi : s.threads[i]? = some (.notify 1)) (hj : s.threads[j]? = some .asleep) :
    ((s.move j .woken).move i .unlockSignal).left < s.left := by
  have hi' := getElem?_wake hi hj
  have hlen : (s.move j .woken).threads.length = s.threads.length := List.length_set
  have hpos := (List.getElem?_eq_some_iff.mp hi).1
  have hwoken := left_move hj .woken
  have hmove := left_move hi' .unlockSignal
  simp only [hlen, Thread.left] at hwoken hmove
  omega

lemma left_notifyAll {n : ℕ} (hi : s.threads[i]? = some (.notify n)) :
    (move { s with threads := s.threads.map Thread.wake } i .unlockSignal).left < s.left := by
  have hi' := getElem?_wakeAll hi
  have hle := sum_left_wake_le s.threads.length s.threads
  have hmove := left_move (s := { s with threads := s.threads.map Thread.wake }) hi' .unlockSignal
  simp only [left, move, List.length_set, List.length_map, Thread.left] at hmove ⊢
  omega

lemma Advance.left_lt (hi : s.threads[i]? = some t) (h : Advance s i t s') : s'.left < s.left := by
  have hlt : ∀ t', t'.left s.threads.length < t.left s.threads.length →
      (s.move i t').left < s.left := by
    intro t' ht'
    have hmove := left_move hi t'
    omega
  cases h with
  | lock ht => exact hlt _ (by cases ht <;> simp [Thread.left])
  | add => exact hlt (.notify _) (by simp [Thread.left])
  | notifyOne hj => exact left_notifyOne hi hj
  | notifyNone => exact hlt _ (by simp [Thread.left])
  | notifyAll => exact left_notifyAll hi
  | unlockSignal => exact hlt .idle (by simp [Thread.left])
  | sleep => exact hlt .asleep (by simp [Thread.left])
  | pass => exact hlt _ (by simp [Thread.left])
  | take => exact hlt .unlockWait (by simp [Thread.left])
  | unlockWait => exact hlt .idle (by simp [Thread.left])

/-! ### What the others see of a step -/

/-- Where a thread can go in one step of its own. -/
inductive Moves : Thread → Thread → Prop
  | lock {t t' : Thread} (h : Locks t t') : Moves t t'
  | add {n : ℕ} : Moves (.add n) (.notify n)
  | notify {n : ℕ} : Moves (.notify n) .unlockSignal
  | unlockSignal : Moves .unlockSignal .idle
  | sleep : Moves .test .asleep
  | pass : Moves .test .take
  | take : Moves .take .unlockWait
  | unlockWait : Moves .unlockWait .idle

def Thread.owes : Thread → ℕ
  | .lockToSignal n | .add n => n
  | .notify _ | .unlockSignal | .idle | .lockToWait | .test | .asleep | .woken | .take |
    .unlockWait => 0

lemma Thread.wake_owes (t : Thread) : t.wake.owes = t.owes := by
  cases t <;> rfl

def owed (s : CondEvent) : ℕ := (s.threads.map Thread.owes).sum

/-- The state of a thread that another one leaves alone, or wakes. -/
def Thread.Aside (t t' : Thread) : Prop := t' = t ∨ t = .asleep ∧ t' = .woken

lemma set_moves {k : ℕ} {t' u : Thread} (ht : Moves t t')
    (hk : (s.threads.set i t')[k]? = some u) :
    (k = i ∧ Moves t u) ∨ (k ≠ i ∧ ∃ u₀, s.threads[k]? = some u₀ ∧ u₀.Aside u) := by
  rcases Threads.getElem?_set_cases hk with ⟨rfl, rfl⟩ | ⟨hne, hk⟩
  · exact .inl ⟨rfl, ht⟩
  · exact .inr ⟨hne, u, hk, .inl rfl⟩

/-- The thread that steps moves on in its call; the others stay where they are, or are woken. -/
lemma Advance.moves {k : ℕ} {u : Thread} (h : Advance s i t s') (hk : s'.threads[k]? = some u) :
    (k = i ∧ Moves t u) ∨ (k ≠ i ∧ ∃ u₀, s.threads[k]? = some u₀ ∧ u₀.Aside u) := by
  cases h with
  | lock ht => exact set_moves (.lock ht) hk
  | add => exact set_moves .add hk
  | @notifyOne j hj =>
    rcases Threads.getElem?_set_cases hk with ⟨rfl, rfl⟩ | ⟨hne, hk'⟩
    · exact .inl ⟨rfl, .notify⟩
    · -- the sleeper that was notified, or a thread that nothing has happened to
      rcases Threads.getElem?_set_cases hk' with ⟨rfl, rfl⟩ | ⟨_, hk''⟩
      · exact .inr ⟨hne, .asleep, hj, .inr ⟨rfl, rfl⟩⟩
      · exact .inr ⟨hne, u, hk'', .inl rfl⟩
  | notifyNone => exact set_moves .notify hk
  | notifyAll =>
    rcases Threads.getElem?_set_cases hk with ⟨rfl, rfl⟩ | ⟨hne, hk'⟩
    · exact .inl ⟨rfl, .notify⟩
    · rw [List.getElem?_map, Option.map_eq_some_iff] at hk'
      obtain ⟨u₀, hu₀, rfl⟩ := hk'
      refine .inr ⟨hne, u₀, hu₀, ?_⟩
      cases u₀ with
      | asleep => exact .inr ⟨rfl, rfl⟩
      | _ => exact .inl rfl
  | unlockSignal => exact set_moves .unlockSignal hk
  | sleep => exact set_moves .sleep hk
  | pass => exact set_moves .pass hk
  | take => exact set_moves .take hk
  | unlockWait => exact set_moves .unlockWait hk

lemma Advance.length (h : Advance s i t s') : s'.threads.length = s.threads.length := by
  cases h <;> simp [move, unlock]

lemma Advance.self (hi : s.threads[i]? = some t) (h : Advance s i t s') :
    ∃ t', s'.threads[i]? = some t' ∧ Moves t t' := by
  have hlt : i < s'.threads.length := h.length ▸ (List.getElem?_eq_some_iff.mp hi).1
  refine ⟨s'.threads[i], List.getElem?_eq_getElem hlt, ?_⟩
  rcases h.moves (List.getElem?_eq_getElem hlt) with ⟨_, hm⟩ | ⟨hne, _⟩
  · exact hm
  · exact absurd rfl hne

lemma Moves.of_take {t' : Thread} (h : Moves .take t') : t' = .unlockWait := by
  cases h with
  | lock hlock => exact nomatch hlock
  | take => rfl

/-- Where a thread is after a step, seen from where it was. -/
def Thread.Goes (t t' : Thread) : Prop := t.Aside t' ∨ Moves t t'

/-- Every thread is where it can have gone from where it was. -/
def Goes (s s' : CondEvent) : Prop :=
  s'.threads.length = s.threads.length ∧
    ∀ (k : ℕ) (u : Thread), s'.threads[k]? = some u → ∃ u₀, s.threads[k]? = some u₀ ∧ u₀.Goes u

lemma Advance.goes (hi : s.threads[i]? = some t) (h : Advance s i t s') : s.Goes s' := by
  refine ⟨h.length, fun k u hk => ?_⟩
  rcases h.moves hk with ⟨rfl, hm⟩ | ⟨_, u₀, hu₀, haside⟩
  · exact ⟨t, hi, .inr hm⟩
  · exact ⟨u₀, hu₀, .inl haside⟩

lemma goes_woken (hi : s.threads[i]? = some .asleep) : s.Goes (s.move i .woken) := by
  refine ⟨List.length_set, fun k u hk => ?_⟩
  rcases Threads.getElem?_set_cases hk with ⟨rfl, rfl⟩ | ⟨_, hk⟩
  · exact ⟨.asleep, hi, .inl (.inr ⟨rfl, rfl⟩)⟩
  · exact ⟨u, hk, .inl (.inl rfl)⟩

/-- The thread is in no call, or in `wait`. -/
def Thread.Waits : Thread → Prop
  | .idle | .lockToWait | .test | .asleep | .woken | .take | .unlockWait => True
  | .lockToSignal _ | .add _ | .notify _ | .unlockSignal => False

/-- The thread is in no call, or in `signal` for one unit. -/
def Thread.SignalsOne : Thread → Prop
  | .lockToSignal n | .add n | .notify n => n = 1
  | .idle | .unlockSignal => True
  | .lockToWait | .test | .asleep | .woken | .take | .unlockWait => False

/-- The thread has the unit that it has waited for, or is in no call. -/
def Thread.passed : Thread → Bool
  | .unlockWait | .idle => true
  | .lockToSignal _ | .add _ | .notify _ | .unlockSignal | .lockToWait | .test | .asleep | .woken |
    .take => false

lemma Thread.Aside.passed {t' : Thread} (h : t.Aside t') : t'.passed = t.passed := by
  rcases h with rfl | ⟨rfl, rfl⟩ <;> rfl

lemma Moves.passed {t' : Thread} (h : Moves t t') (ht : t.Waits) (hne : t ≠ .take) :
    t'.passed = t.passed := by
  cases h with
  | lock hlock => cases hlock <;> rfl
  | add | notify | unlockSignal => exact ht.elim
  | sleep | pass | unlockWait => rfl
  | take => exact absurd rfl hne

lemma Moves.waits {t' : Thread} (h : Moves t t') (ht : t.Waits) : t'.Waits := by
  cases h with
  | lock hlock => cases hlock <;> trivial
  | add | notify | unlockSignal => exact ht.elim
  | _ => trivial

lemma Moves.signalsOne {t' : Thread} (h : Moves t t') (ht : t.SignalsOne) : t'.SignalsOne := by
  cases h with
  | lock hlock => cases hlock <;> exact ht
  | add | notify | unlockSignal => first | exact ht | trivial
  | sleep | pass | take | unlockWait => exact ht.elim

lemma Thread.Goes.waits {t' : Thread} (h : t.Goes t') (ht : t.Waits) : t'.Waits := by
  rcases h with (rfl | ⟨_, rfl⟩) | hm
  · exact ht
  · trivial
  · exact hm.waits ht

lemma Thread.Goes.signalsOne {t' : Thread} (h : t.Goes t') (ht : t.SignalsOne) :
    t'.SignalsOne := by
  rcases h with (rfl | ⟨rfl, rfl⟩) | hm
  · exact ht
  · exact ht.elim
  · exact hm.signalsOne ht

lemma Thread.Goes.idle {t' : Thread} (h : Thread.idle.Goes t') : t' = .idle := by
  rcases h with (rfl | ⟨hne, _⟩) | hm
  · rfl
  · exact nomatch hne
  · cases hm with
    | lock hlock => exact nomatch hlock

/-- What a step does to the count, and to what is about to be added to it. -/
inductive Effect (s s' : CondEvent) : Thread → Prop
  | add {n : ℕ} (hcount : s'.count = s.count + n) (howed : s'.owed + n = s.owed) :
    Effect s s' (.add n)
  | take (hcount : s'.count = s.count - 1) (howed : s'.owed = s.owed) : Effect s s' .take
  | none {t : Thread} (hadd : ∀ n, t ≠ .add n) (htake : t ≠ .take) (hcount : s'.count = s.count)
    (howed : s'.owed = s.owed) : Effect s s' t

lemma owed_move (hi : s.threads[i]? = some t) (t' : Thread) :
    (s.move i t').owed + t.owes = s.owed + t'.owes :=
  Threads.sum_map_set Thread.owes t' hi

lemma Advance.effect (hi : s.threads[i]? = some t) (h : Advance s i t s') : Effect s s' t := by
  cases h with
  | lock ht => 
    cases ht with
    | signal n => exact .none nofun nofun rfl (Nat.add_right_cancel (owed_move hi (.add n)))
    | wait => exact .none nofun nofun rfl (owed_move hi .test)
    | woken => exact .none nofun nofun rfl (owed_move hi .test)
  | add => exact .add rfl (owed_move hi (.notify _))
  | notifyOne hj =>
    have howed := owed_move (getElem?_wake hi hj) .unlockSignal
    exact .none nofun nofun rfl (howed.trans (owed_move hj .woken))
  | notifyNone => exact .none nofun nofun rfl (owed_move hi .unlockSignal)
  | notifyAll =>
    -- waking the others does not change what they owe
    have howed := owed_move (s := { s with threads := s.threads.map Thread.wake })
      (getElem?_wakeAll hi) .unlockSignal
    refine .none nofun nofun rfl (howed.trans ?_)
    show ((s.threads.map Thread.wake).map Thread.owes).sum = s.owed
    rw [List.map_map, owed, funext (f := Thread.owes ∘ Thread.wake) Thread.wake_owes]
  | unlockSignal => exact .none nofun nofun rfl (owed_move hi .idle)
  | sleep => exact .none nofun nofun rfl (owed_move hi .asleep)
  | pass => exact .none nofun nofun rfl (owed_move hi .take)
  | take => exact .take rfl (owed_move hi .unlockWait)
  | unlockWait => exact .none nofun nofun rfl (owed_move hi .idle)

end CondEvent
