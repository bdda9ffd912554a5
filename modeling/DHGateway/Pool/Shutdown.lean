import DHGateway.Core.Spawning
import DHGateway.Pool.ThreadPool

/-!
# Stopping the pool

`stop` joins the threads before it posts the tokens that make them leave, so that it waits for
threads that wait for it. Only a task that hands tasks to the pool without end keeps the threads
from blocking.
-/

namespace DHGateway

def ThreadPoolAction.Inside {τ ρ : Type*} : ThreadPoolAction τ ρ → Prop
  | .input _ | .post => False
  | _ => True

namespace ThreadPool

variable {τ ρ : Type*} {course : τ → ρ → List (Input τ)} {s s' : ThreadPool τ}

def spawn (course : τ → ρ → List (Input τ)) (t : τ) (r : ρ) : List τ :=
  (course t r).map Input.task

/-- On some course a task gives finitely many tasks to the pool in all: by itself, by these, and so
on. -/
abbrev RunsOut (course : τ → ρ → List (Input τ)) (t : τ) : Prop :=
  Spawning.RunsOut (spawn course) t

/-- A task is in the queue, or one that runs has yet to give it to the pool. -/
def Pending (s : ThreadPool τ) (u : τ) : Prop :=
  (∃ e ∈ s.queue.list, e.value = u) ∨ ∃ pc ∈ s.workers, ∃ i ∈ pc.rest, i.task = u

/-- `stop` waits in `join_all` for a thread, and all threads that have not left are blocked. -/
def Deadlocked (s : ThreadPool τ) : Prop :=
  (∃ w ws, s.stopping = .joinAll (w :: ws) ∧ s.workers[w]? ≠ some .left) ∧
    s.queue.count = 0 ∧ ∀ pc ∈ s.workers, pc = .wait ∨ pc = .left

/-- All threads have left `run`. -/
def AllLeft (s : ThreadPool τ) : Prop :=
  ∀ pc ∈ s.workers, pc = .left

def Executed (s : ThreadPool τ) (e : TokenQueue.Entry τ) : Prop :=
  e ∈ s.queue.handed ∧ ∀ pc ∈ s.workers, ¬ pc.Runs e

/-- From here on, without callers outside the pool, `stop` never waits for blocked threads, and all
tasks in the queue are executed before the last thread leaves. -/
def ShutsDown (course : τ → ρ → List (Input τ)) (s : ThreadPool τ) : Prop :=
  ∀ as t, (∀ a ∈ as, a.Inside) → Run.run (step course) s as = some t →
    ¬ t.Deadlocked ∧ (t.AllLeft → ∀ e ∈ s.queue.list, t.Executed e)

/-! ### No thread leaves -/

/-- There are threads, none of them has left, and `stop` has not got past the first one. -/
structure Running (s : ThreadPool τ) : Prop where
  sound : s.Sound
  workers : s.workers ≠ []
  stopping : s.stopping = .idle ∨
    ∃ w ws, s.stopping = .joinAll (w :: ws) ∧ w < s.workers.length

lemma running_start {n : ℕ} (hn : 0 < n) : (start n : ThreadPool τ).Running := by
  refine ⟨sound_start n, ?_, Or.inl rfl⟩
  intro h
  have hlen := congrArg List.length h
  rw [start, List.length_replicate] at hlen
  exact hn.ne' hlen

lemma Running.stopping_ne (h : s.Running) :
    s.stopping ≠ .joinAll [] ∧ s.stopping ≠ .pushExit := by
  rcases h.stopping with hidle | ⟨w, ws, hjoin, _⟩
  · rw [hidle]
    exact ⟨StopStage.noConfusion, StopStage.noConfusion⟩
  · rw [hjoin]
    refine ⟨fun hnil => ?_, StopStage.noConfusion⟩
    cases hnil

/-- No step makes a thread leave or lets `stop` get past the first one. -/
lemma Running.step (h : s.Running) {a : ThreadPoolAction τ ρ} (hs : s.step course a = some s') :
    s'.Running := by
  have hexit : a ≠ .pushExit := by
    rintro rfl
    obtain ⟨hstop, _⟩ := step_pushExit hs
    exact h.stopping_ne.2 hstop
  have hsound : s'.Sound := h.sound.step hexit hs
  cases a with
  | input i =>
    rcases step_input hs with rfl | rfl
    · exact h
    · exact ⟨hsound, h.workers, h.stopping⟩
  | post =>
    obtain ⟨_, rfl⟩ := step_post hs
    exact ⟨hsound, h.workers, h.stopping⟩
  | worker w r =>
    obtain ⟨pc, queue, pc', hw, hn, rfl⟩ := step_worker.mp hs
    refine ⟨hsound, ?_, ?_⟩
    · show s.workers.set w pc' ≠ []
      rw [Ne, List.set_eq_nil_iff]
      exact h.workers
    · show s.stopping = .idle ∨ ∃ v ws, s.stopping = .joinAll (v :: ws) ∧
        v < (s.workers.set w pc').length
      rw [List.length_set]
      exact h.stopping
  | stop order =>
    obtain ⟨_, hperm, rfl⟩ := step_stop hs
    refine ⟨hsound, h.workers, Or.inr ?_⟩
    cases order with
    | nil =>
      have hlen := hperm.length_eq
      rw [List.length_range, List.length_nil] at hlen
      exact absurd (List.length_eq_zero_iff.mp hlen.symm) h.workers
    -- `join_all` begins with a thread of the pool, and none of them leaves
    | cons w ws => exact ⟨w, ws, rfl, List.mem_range.mp (hperm.subset List.mem_cons_self)⟩
  | join =>
    rcases step_join hs with ⟨hnil, _⟩ | ⟨w, ws, _, hleft, _⟩
    · exact absurd hnil h.stopping_ne.1
    · exact absurd rfl (h.sound.notLeft _ (List.mem_of_getElem? hleft))
  | pushExit => exact absurd rfl hexit

/-- Whatever happens, no thread leaves `run` and `stop` does not return. -/
lemma running_of_run {n : ℕ} (hn : 0 < n) {as : List (ThreadPoolAction τ ρ)}
    (hrun : Run.run (step course) (start n) as = some s) : s.Running :=
  Run.reachable_invariant (fun _ _ _ h hs => h.step hs) (running_start hn) hrun

/-! ### Tasks without end -/

def Endless (course : τ → ρ → List (Input τ)) (s : ThreadPool τ) : Prop :=
  ∃ u, s.Pending u ∧ ¬ RunsOut course u

lemma exists_input_not_runsOut {t : τ} (h : ¬ RunsOut course t) (r : ρ) :
    ∃ i ∈ course t r, ¬ RunsOut course i.task := by
  obtain ⟨u, hu, hnot⟩ := Spawning.exists_of_not_runsOut h r
  obtain ⟨i, hi, rfl⟩ := List.mem_map.mp hu
  exact ⟨i, hi, hnot⟩

/-- A step of a thread that is about a task without end leaves such a task: the task itself, or one
that it gives to the pool. -/
lemma endless_next {w : ℕ} {r : ρ} {q q' : PoolQueue τ} {pc pc' : Worker τ}
    (hn : Worker.Next course w r q pc q' pc')
    (h : (∃ e ∈ q.list, ¬ RunsOut course e.value) ∨ ∃ i ∈ pc.rest, ¬ RunsOut course i.task) :
    (∃ e ∈ q'.list, ¬ RunsOut course e.value) ∨ ∃ i ∈ pc'.rest, ¬ RunsOut course i.task := by
  cases hn with
  | wait hq =>
    obtain ⟨_, rfl⟩ := TokenQueue.wait_eq_some.mp hq
    exact h
  | refuse hq => exact h
  | take hq =>
    obtain ⟨l, hl, rfl⟩ := TokenQueue.remove_eq_some.mp hq
    rcases h with ⟨e, he, hnot⟩ | ⟨i, hi, _⟩
    · rw [hl] at he
      rcases List.mem_cons.mp he with rfl | he
      · -- the task that does not run out is taken, and leads to another one
        exact Or.inr (exists_input_not_runsOut hnot r)
      · exact Or.inl ⟨e, he, hnot⟩
    · exact absurd hi List.not_mem_nil
  | finish => exact h
  | push hi =>
    rcases h with ⟨e, he, hnot⟩ | ⟨i, hi, hnot⟩
    · exact Or.inl ⟨e, TokenQueue.mem_insert_list.mpr (Or.inl he), hnot⟩
    · rcases List.mem_cons.mp hi with rfl | hi
      · exact Or.inl ⟨_, TokenQueue.mem_insert_list.mpr (Or.inr rfl), hnot⟩
      · exact Or.inr ⟨i, hi, hnot⟩
  | inPlace hi =>
    rcases h with h | ⟨i, hi, hnot⟩
    · exact Or.inl h
    · rcases List.mem_cons.mp hi with rfl | hi
      · -- or it is run in place
        obtain ⟨j, hj, hnot⟩ := exists_input_not_runsOut hnot r
        exact Or.inr ⟨j, List.mem_append_left _ hj, hnot⟩
      · exact Or.inr ⟨i, List.mem_append_right _ hi, hnot⟩
  | post => exact h

lemma endless_iff : Endless course s ↔
    (∃ e ∈ s.queue.list, ¬ RunsOut course e.value) ∨
      ∃ pc ∈ s.workers, ∃ i ∈ pc.rest, ¬ RunsOut course i.task := by
  constructor
  · rintro ⟨u, ⟨e, he, rfl⟩ | ⟨pc, hpc, i, hi, rfl⟩, hnot⟩
    · exact Or.inl ⟨e, he, hnot⟩
    · exact Or.inr ⟨pc, hpc, i, hi, hnot⟩
  · rintro (⟨e, he, hnot⟩ | ⟨pc, hpc, i, hi, hnot⟩)
    · exact ⟨_, Or.inl ⟨e, he, rfl⟩, hnot⟩
    · exact ⟨_, Or.inr ⟨pc, hpc, i, hi, rfl⟩, hnot⟩

lemma Endless.step (h : Endless course s) {a : ThreadPoolAction τ ρ} (ha : a.Inside)
    (hs : s.step course a = some s') : Endless course s' := by
  cases a with
  | input i => exact ha.elim
  | post => exact ha.elim
  | worker w r =>
    obtain ⟨pc, queue, pc', hw, hn, rfl⟩ := step_worker.mp hs
    have hnext : (∃ e ∈ s.queue.list, ¬ RunsOut course e.value) ∨
        (∃ i ∈ pc.rest, ¬ RunsOut course i.task) →
        Endless course { s with queue, workers := s.workers.set w pc' } := by
      intro h
      rw [endless_iff]
      exact (endless_next hn h).imp_right fun hrest => ⟨pc', Threads.mem_set_self pc' hw, hrest⟩
    rcases endless_iff.mp h with hq | ⟨p, hp, hrest⟩
    · exact hnext (Or.inl hq)
    · rcases Threads.eq_or_mem_set pc' hw hp with rfl | hp
      · exact hnext (Or.inr hrest)
      · rw [endless_iff]
        exact Or.inr ⟨p, hp, hrest⟩
  | stop order =>
    obtain ⟨_, _, rfl⟩ := step_stop hs
    exact h
  | join =>
    rcases step_join hs with ⟨_, rfl⟩ | ⟨_, _, _, _, rfl⟩
    · exact h
    · exact h
  | pushExit =>
    obtain ⟨_, rfl⟩ := step_pushExit hs
    exact h

lemma step_posting {a : ThreadPoolAction τ ρ} (ha : a.Inside) (hs : s.step course a = some s') :
    s'.posting = s.posting := by
  cases a with
  | input i => exact ha.elim
  | post => exact ha.elim
  | worker w r =>
    obtain ⟨_, _, _, _, _, rfl⟩ := step_worker.mp hs
    rfl
  | stop order =>
    obtain ⟨_, _, rfl⟩ := step_stop hs
    rfl
  | join =>
    rcases step_join hs with ⟨_, rfl⟩ | ⟨_, _, _, _, rfl⟩
    · rfl
    · rfl
  | pushExit =>
    obtain ⟨_, rfl⟩ := step_pushExit hs
    rfl

lemma Deadlocked.not_endless (h : s.Deadlocked) (hs : s.Running) (hout : s.posting = 0) :
    ¬ Endless course s := by
  have hblocked : s.Blocked := by
    refine ⟨h.2.1, fun pc hpc => ?_⟩
    exact (h.2.2 pc hpc).resolve_right (hs.sound.notLeft pc hpc)
  have hlist : s.queue.list = [] := by
    apply hs.sound.handsOnce.drained hblocked
    refine ⟨hout, fun pc hpc => ?_⟩
    rw [hblocked.2 pc hpc]
    rfl
  rw [endless_iff, hlist]
  rintro (⟨e, he, _⟩ | ⟨pc, hpc, i, hi, _⟩)
  · exact List.not_mem_nil he
  · rw [hblocked.2 pc hpc] at hi
    exact List.not_mem_nil hi

/-! ### Tasks that run out -/

/-- What is left to do for calls: for each its task, the insertion, the post and the wait. -/
noncomputable def inputLoad (course : τ → ρ → List (Input τ)) (rest : List (Input τ)) : ℕ :=
  (rest.map fun i => Spawning.weight (spawn course) 5 i.task + 5).sum

noncomputable def workerLoad (course : τ → ρ → List (Input τ)) : Worker τ → ℕ
  | .remove => 1
  | .running _ rest => inputLoad course rest + 1
  | .post _ rest => inputLoad course rest + 4
  | _ => 0

/-- What is left to do for the tokens and the entries of the queue. -/
noncomputable def queueLoad (course : τ → ρ → List (Input τ)) (q : PoolQueue τ) : ℕ :=
  2 * q.count + (q.list.map fun e => Spawning.weight (spawn course) 5 e.value + 1).sum

noncomputable def load (course : τ → ρ → List (Input τ)) (s : ThreadPool τ) : ℕ :=
  queueLoad course s.queue + (s.workers.map (workerLoad course)).sum

/-- A task that runs out is more to do than its calls, on some course. -/
lemma exists_inputLoad_lt {t : τ} (h : RunsOut course t) :
    ∃ r, (∀ i ∈ course t r, RunsOut course i.task) ∧
      inputLoad course (course t r) < Spawning.weight (spawn course) 5 t := by
  obtain ⟨r, hr, hlt⟩ := h.exists_lt_weight (c := 5)
  refine ⟨r, fun i hi => hr _ (List.mem_map_of_mem hi), ?_⟩
  rw [spawn, List.map_map] at hlt
  exact hlt

lemma inputLoad_append (l l' : List (Input τ)) :
    inputLoad course (l ++ l') = inputLoad course l + inputLoad course l' := by
  rw [inputLoad, List.map_append, List.sum_append]
  rfl

lemma inputLoad_cons (i : Input τ) (l : List (Input τ)) : inputLoad course (i :: l) =
    Spawning.weight (spawn course) 5 i.task + 5 + inputLoad course l := by
  rw [inputLoad, List.map_cons, List.sum_cons]
  rfl

lemma queueLoad_insert (q : PoolQueue τ) (first : Bool) (u : τ) :
    queueLoad course (q.insert first u) =
      queueLoad course q + Spawning.weight (spawn course) 5 u + 1 := by
  cases first with
  | false =>
    simp only [queueLoad, TokenQueue.insert, Bool.false_eq_true, if_false, List.map_append,
      List.sum_append, List.map_singleton, List.sum_singleton, TokenQueue.entry]
    omega
  | true =>
    simp only [queueLoad, TokenQueue.insert, if_true, List.map_cons, List.sum_cons,
      TokenQueue.entry]
    omega

/-- A thread that is not in the semaphore gets on, and there is less to do afterwards. -/
lemma exists_next [Nonempty ρ] (w : ℕ) {q : PoolQueue τ} {pc : Worker τ} (hwait : pc ≠ .wait)
    (hleft : pc ≠ .left) (hremove : pc = .remove → q.list ≠ [])
    (hq : ∀ e ∈ q.list, RunsOut course e.value) (hrest : ∀ i ∈ pc.rest, RunsOut course i.task) :
    ∃ r q' pc', Worker.Next course w r q pc q' pc' ∧
      (∀ e ∈ q'.list, RunsOut course e.value) ∧ (∀ i ∈ pc'.rest, RunsOut course i.task) ∧
      queueLoad course q' + workerLoad course pc' < queueLoad course q + workerLoad course pc := by
  obtain ⟨r₀⟩ := ‹Nonempty ρ›
  cases pc with
  | wait => exact absurd rfl hwait
  | left => exact absurd rfl hleft
  | remove =>
    obtain ⟨e, l, hl⟩ := List.exists_cons_of_ne_nil (hremove rfl)
    rw [hl] at hq
    -- the task takes the course on which it runs out
    obtain ⟨r, hr, hlt⟩ := exists_inputLoad_lt (hq e List.mem_cons_self)
    refine ⟨r, _, _, .take (TokenQueue.remove_eq_some.mpr ⟨l, hl, rfl⟩), ?_, hr, ?_⟩
    · exact fun e' he' => hq e' (List.mem_cons_of_mem e he')
    · simp only [queueLoad, workerLoad, hl, List.map_cons, List.sum_cons]
      omega
  | running e rest =>
    cases rest with
    | nil =>
      refine ⟨r₀, _, _, .finish, hq, hrest, ?_⟩
      simp only [workerLoad]
      omega
    | cons i rest =>
      obtain ⟨hi, hrest⟩ := List.forall_mem_cons.mp hrest
      cases hqueues : i.queues true with
      | true =>
        refine ⟨r₀, _, _, .push hqueues, fun e' he' => ?_, hrest, ?_⟩
        · rcases TokenQueue.mem_insert_list.mp he' with he' | rfl
          · exact hq e' he'
          · exact hi
        · -- an entry counts less than the call that makes it
          simp only [workerLoad, inputLoad_cons, queueLoad_insert]
          omega
      | false =>
        obtain ⟨r, hr, hlt⟩ := exists_inputLoad_lt hi
        refine ⟨r, _, _, .inPlace hqueues, hq, ?_, ?_⟩
        · exact fun j hj => (List.mem_append.mp hj).elim (hr j) (hrest j)
        · simp only [workerLoad, inputLoad_cons, inputLoad_append]
          omega
  | post e rest =>
    refine ⟨r₀, _, _, .post, hq, hrest, ?_⟩
    simp only [workerLoad, queueLoad, TokenQueue.post]
    omega

/-- `stop` is in `join_all`, no caller outside is about to post, and what is pending runs out. -/
structure Draining (course : τ → ρ → List (Input τ)) (s : ThreadPool τ) : Prop where
  running : s.Running
  posting : s.posting = 0
  stopping : ∃ w ws, s.stopping = .joinAll (w :: ws)
  queue : ∀ e ∈ s.queue.list, RunsOut course e.value
  workers : ∀ pc ∈ s.workers, ∀ i ∈ pc.rest, RunsOut course i.task

lemma Draining.next (h : s.Draining course) {w : ℕ} {r : ρ} {pc pc' : Worker τ}
    {queue : PoolQueue τ} (hw : s.workers[w]? = some pc)
    (hn : Worker.Next course w r s.queue pc queue pc')
    (hqueue : ∀ e ∈ queue.list, RunsOut course e.value)
    (hrest : ∀ i ∈ pc'.rest, RunsOut course i.task)
    (hlt : queueLoad course queue + workerLoad course pc' <
      queueLoad course s.queue + workerLoad course pc) :
    ∃ s', s.step course (.worker w r) = some s' ∧ s'.Draining course ∧
      load course s' < load course s := by
  have hs : s.step course (.worker w r) =
      some { s with queue, workers := s.workers.set w pc' } :=
    step_worker.mpr ⟨pc, queue, pc', hw, hn, rfl⟩
  refine ⟨_, hs, ⟨h.running.step hs, h.posting, h.stopping, hqueue, fun p hp => ?_⟩, ?_⟩
  · rcases List.mem_or_eq_of_mem_set hp with hp | rfl
    · exact h.workers p hp
    · exact hrest
  · have hsum := Threads.sum_map_set (workerLoad course) pc' hw
    show queueLoad course queue + ((s.workers.set w pc').map (workerLoad course)).sum <
      queueLoad course s.queue + (s.workers.map (workerLoad course)).sum
    omega

lemma Draining.exists_step [Nonempty ρ] (h : s.Draining course) (hdead : ¬ s.Deadlocked) :
    ∃ (w : ℕ) (r : ρ) (s' : ThreadPool τ), s.step course (.worker w r) = some s' ∧
      s'.Draining course ∧ load course s' < load course s := by
  by_cases hbusy : ∃ (w : ℕ) (pc : Worker τ), s.workers[w]? = some pc ∧ pc ≠ .wait
  · obtain ⟨w, pc, hw, hwait⟩ := hbusy
    have hmem : pc ∈ s.workers := List.mem_of_getElem? hw
    have hremove : pc = .remove → s.queue.list ≠ [] := by
      rintro rfl
      exact Worker.list_ne_nil hw h.running.sound.balanced
    obtain ⟨r, queue, pc', hn, hqueue, hrest, hlt⟩ := exists_next w hwait
      (h.running.sound.notLeft pc hmem) hremove h.queue (h.workers pc hmem)
    exact ⟨w, r, h.next hw hn hqueue hrest hlt⟩
  · have hall : ∀ pc ∈ s.workers, pc = .wait := by
      intro pc hpc
      by_contra hne
      obtain ⟨w, hw⟩ := List.mem_iff_getElem?.mp hpc
      exact hbusy ⟨w, pc, hw, hne⟩
    -- the threads are all in the semaphore, which has a token or they are deadlocked
    have hcount : 0 < s.queue.count := by
      by_contra hzero
      obtain ⟨w, ws, hjoin⟩ := h.stopping
      refine hdead ⟨⟨w, ws, hjoin, fun hw => ?_⟩, by omega, fun pc hpc => Or.inl (hall pc hpc)⟩
      exact h.running.sound.notLeft _ (List.mem_of_getElem? hw) rfl
    obtain ⟨pc, l, hl⟩ := List.exists_cons_of_ne_nil h.running.workers
    have hw : s.workers[0]? = some .wait := by
      rw [← hall pc (hl ▸ List.mem_cons_self), hl]
      rfl
    obtain ⟨r⟩ := ‹Nonempty ρ›
    refine ⟨0, r, h.next hw (.wait (TokenQueue.wait_eq_some.mpr ⟨hcount, rfl⟩)) h.queue ?_ ?_⟩
    · exact fun i hi => absurd hi List.not_mem_nil
    · simp only [queueLoad, workerLoad]
      omega

/-- When all that is pending runs out, the threads can finish it and block, with `stop` waiting for
them. -/
lemma exists_deadlocked [Nonempty ρ] (h : s.Running) (hidle : s.stopping = .idle)
    (hout : s.posting = 0) (hend : ¬ Endless course s) :
    ∃ (as : List (ThreadPoolAction τ ρ)) (t : ThreadPool τ), (∀ a ∈ as, a.Inside) ∧
      Run.run (step course) s as = some t ∧ t.Deadlocked := by
  rw [endless_iff] at hend
  obtain ⟨hqueue, hworkers⟩ := not_or.mp hend
  let order := List.range s.workers.length
  have hs : s.step course (.stop order : ThreadPoolAction τ ρ) =
      some { s with stopping := .joinAll order } := by
    rw [ThreadPool.step, if_pos ⟨hidle, List.Perm.refl _⟩]
  have hrunning : Running { s with stopping := .joinAll order } := h.step hs
  have hdraining : Draining course { s with stopping := .joinAll order } := by
    refine ⟨hrunning, hout, ?_, ?_, ?_⟩
    · rcases hrunning.stopping with hstop | ⟨w, ws, hjoin, _⟩
      · cases hstop
      · exact ⟨w, ws, hjoin⟩
    · intro e he
      by_contra hnot
      exact hqueue ⟨e, he, hnot⟩
    · intro pc hpc i hi
      by_contra hnot
      exact hworkers ⟨pc, hpc, i, hi, hnot⟩
  -- `stop` waits for the first thread, and the threads go on until all wait for a token
  have hdown : ∀ s : ThreadPool τ, s.Draining course → ¬ s.Deadlocked →
      ∃ (a : ThreadPoolAction τ ρ) (s' : ThreadPool τ), a.Inside ∧ s.step course a = some s' ∧
        s'.Draining course ∧ load course s' < load course s := by
    intro s hI hdead
    obtain ⟨w, r, s', hs, hI', hlt⟩ := hI.exists_step hdead
    exact ⟨.worker w r, s', trivial, hs, hI', hlt⟩
  obtain ⟨as, t, has, hrun, hdead⟩ := Run.exists_run_of_decreasing hdown hdraining
  exact ⟨.stop order :: as, t, List.forall_mem_cons.mpr ⟨trivial, has⟩,
    Run.run_cons.mpr ⟨_, hs, hrun⟩, hdead⟩

lemma Endless.shutsDown (h : Endless course s) (hs : s.Running) (hout : s.posting = 0) :
    s.ShutsDown course := by
  intro as t has hrun
  have hmeets : Run.Meets (ThreadPool.step course) (fun _ a => a.Inside) s as :=
    Run.meets_of_forall (fun a ha _ => has a ha) s
  have hstep : ∀ (s : ThreadPool τ) (a : ThreadPoolAction τ ρ) (s' : ThreadPool τ),
      (s.Running ∧ s.posting = 0 ∧ Endless course s) → a.Inside → s.step course a = some s' →
      s'.Running ∧ s'.posting = 0 ∧ Endless course s' := by
    rintro s a s' ⟨hI, hpost, hend⟩ ha hs
    exact ⟨hI.step hs, step_posting ha hs ▸ hpost, hend.step ha hs⟩
  obtain ⟨ht, hpost, hend⟩ := Run.run_invariant hstep ⟨hs, hout, h⟩ hmeets hrun
  constructor
  · exact fun hdead => hdead.not_endless ht hpost hend
  · intro hleft
    obtain ⟨pc, l, hl⟩ := List.exists_cons_of_ne_nil ht.workers
    have hmem : pc ∈ t.workers := hl ▸ List.mem_cons_self
    exact absurd (hleft pc hmem) (ht.sound.notLeft pc hmem)

/-- The pool shuts down from a state, in which no caller outside is about to post, exactly if a task
that is pending there gives tasks to the pool without end. -/
theorem shutsDown_iff_endless [Nonempty ρ] {n : ℕ} (hn : 0 < n)
    {as : List (ThreadPoolAction τ ρ)} (hrun : Run.run (step course) (start n) as = some s)
    (hidle : s.stopping = .idle) (hout : s.posting = 0) :
    s.ShutsDown course ↔ ∃ u, s.Pending u ∧ ¬ RunsOut course u := by
  have hrunning : s.Running := running_of_run hn hrun
  constructor
  · intro h
    by_contra hend
    obtain ⟨bs, t, hbs, hrun', hdead⟩ := exists_deadlocked hrunning hidle hout hend
    exact (h bs t hbs hrun').1 hdead
  · exact fun hend => Endless.shutsDown hend hrunning hout

def returns (_ _ : Unit) : List (Input Unit) := []

def resubmits (_ _ : Unit) : List (Input Unit) := [⟨(), false, false⟩]

def oneTask : List (ThreadPoolAction Unit Unit) := [.input ⟨(), false, true⟩, .post]

lemma not_runsOut_resubmits (t : Unit) : ¬ RunsOut resubmits t := by
  intro h
  induction h with
  | intro r _ ih => exact ih () (List.mem_singleton_self _)

theorem shutsDown_resubmits :
    ∃ s, Run.run (step resubmits) (start 1) oneTask = some s ∧ s.ShutsDown resubmits := by
  have hrun : Run.run (step resubmits) (start 1) oneTask = some _ := rfl
  refine ⟨_, hrun, (shutsDown_iff_endless Nat.one_pos hrun rfl rfl).mpr ⟨(), ?_, ?_⟩⟩
  · exact Or.inl ⟨_, List.mem_singleton_self _, rfl⟩
  · exact not_runsOut_resubmits ()

/-- The five threads of `sdk_thread` run the task and block, while `stop` waits for the first. -/
theorem not_shutsDown_returns :
    ∃ s, Run.run (step returns) (start 5) oneTask = some s ∧
      s.stopping = .idle ∧ s.posting = 0 ∧ ¬ s.ShutsDown returns := by
  refine ⟨_, rfl, rfl, rfl, fun h => ?_⟩
  let as : List (ThreadPoolAction Unit Unit) :=
    [.stop [0, 1, 2, 3, 4], .worker 0 (), .worker 0 (), .worker 0 ()]
  have hinside : ∀ a ∈ as, a.Inside := by
    simp [as, ThreadPoolAction.Inside]
  refine (h as _ hinside rfl).1 ⟨⟨0, [1, 2, 3, 4], rfl, ?_⟩, rfl, ?_⟩
  · exact fun hleft => by cases hleft
  · intro pc hpc
    have hpc : pc ∈ List.replicate 5 Worker.wait := hpc
    exact Or.inl (List.eq_of_mem_replicate hpc)

end ThreadPool

end DHGateway
