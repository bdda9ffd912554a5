import Mathlib.Data.List.Perm.Basic
import DHGateway.Core.Run
import DHGateway.Core.Threads
import DHGateway.Core.TokenQueue

/-!
# The thread pool

`task_queue` has a list under a mutex and a semaphore with a mutex of its own; the threads of
`thread_pool` run its tasks. The locked insertion, the post, the wait and the locked removal are
one step each.
-/

namespace DHGateway

/-- The queue of the pool, with the numbers of the threads that took its tasks. -/
abbrev PoolQueue (τ : Type*) := TokenQueue ℕ τ

namespace PoolQueue

variable {τ : Type*}

/-- `push_task` up to its post. -/
def pushTask (q : PoolQueue τ) (task : τ) : PoolQueue τ := q.insert false task

/-- `push_task_first` up to its post. -/
def pushTaskFirst (q : PoolQueue τ) (task : τ) : PoolQueue τ := q.insert true task

/-- `push_exit`. -/
def pushExit (q : PoolQueue τ) (n : ℕ) : PoolQueue τ := q.post n

/-- `get_task` after its wait, in a thread with a number; `none` where it returns `false`. -/
def getTask (q : PoolQueue τ) (w : ℕ) : Option (TokenQueue.Entry τ × PoolQueue τ) := q.remove w

end PoolQueue

/-- A call of `input_task` or, with `first`, of `input_task_first`. -/
structure Input (τ : Type*) where
  task : τ
  first : Bool
  maySync : Bool
  deriving DecidableEq

namespace Input

variable {τ : Type*}

/-- The call puts its task into the queue instead of running it. `inPool` is what
`is_this_thread_in` returns, which only `input_task` asks. -/
def queues (i : Input τ) (inPool : Bool) : Bool :=
  if i.first then !i.maySync else !(i.maySync && inPool)

def push (i : Input τ) (q : PoolQueue τ) : PoolQueue τ :=
  if i.first then q.pushTaskFirst i.task else q.pushTask i.task

lemma push_eq_insert (i : Input τ) (q : PoolQueue τ) : i.push q = q.insert i.first i.task := by
  rw [push]
  cases i.first <;> rfl

end Input

/-- Where a thread is in `run`. A task that runs has calls ahead of it before it returns or
throws. -/
inductive Worker (τ : Type*) where
  | wait
  | remove
  | running (e : TokenQueue.Entry τ) (rest : List (Input τ))
  | post (e : TokenQueue.Entry τ) (rest : List (Input τ))
  | left

namespace Worker

variable {τ ρ : Type*}

/-- The tokens that it holds: one in `get_task`, between the wait and the removal. -/
def holds : Worker τ → ℕ
  | .remove => 1
  | _ => 0

/-- The tokens that it has yet to post: one in `push_task` or `push_task_first`, between the
insertion and the post. -/
def posts : Worker τ → ℕ
  | .post _ _ => 1
  | _ => 0

def rest : Worker τ → List (Input τ)
  | .running _ rest => rest
  | .post _ rest => rest
  | _ => []

def Runs (e : TokenQueue.Entry τ) : Worker τ → Prop
  | .running e' _ => e' = e
  | .post e' _ => e' = e
  | _ => False

/-- The next step of a thread. The calls that a task makes before it returns or throws are given by
`course`; a task that is run in place makes its own calls first. -/
def next (course : τ → ρ → List (Input τ)) (w : ℕ) (r : ρ) (q : PoolQueue τ) :
    Worker τ → Option (PoolQueue τ × Worker τ)
  | .wait => q.wait.map fun q' => (q', .remove)
  | .remove =>
    match q.getTask w with
    | none => some (q, .left)
    | some (e, q') => some (q', .running e (course e.value r))
  | .running _ [] => some (q, .wait)
  | .running e (i :: rest) =>
    if i.queues true then some (i.push q, .post e rest)
    else some (q, .running e (course i.task r ++ rest))
  | .post e rest => some (q.post 1, .running e rest)
  | .left => none

end Worker

/-- Where the thread is that executes `stop`: not yet there, in `join_all` with the threads that it
has yet to join, before `push_exit`, or done. -/
inductive StopStage where
  | idle
  | joinAll (threads : List ℕ)
  | pushExit
  | stopped
  deriving DecidableEq

/-- The queue, the callers outside the pool that have inserted and not posted, the threads, and
`stop`. -/
structure ThreadPool (τ : Type*) where
  queue : PoolQueue τ
  posting : ℕ
  workers : List (Worker τ)
  stopping : StopStage

/-- What can happen next: a call from outside the pool, its post, a step of a thread, and the steps
of `stop`, which joins the threads in the order of an `unordered_map`. -/
inductive ThreadPoolAction (τ ρ : Type*) where
  | input (i : Input τ)
  | post
  | worker (w : ℕ) (r : ρ)
  | stop (order : List ℕ)
  | join
  | pushExit
  deriving DecidableEq

namespace ThreadPool

variable {τ ρ : Type*}

/-- A pool with `n` threads. -/
def start (n : ℕ) : ThreadPool τ :=
  ⟨.new, 0, List.replicate n .wait, .idle⟩

/-- One step. A task that a caller outside the pool runs in place does not touch the pool. -/
def step (course : τ → ρ → List (Input τ)) (s : ThreadPool τ) :
    ThreadPoolAction τ ρ → Option (ThreadPool τ)
  | .input i =>
    if i.queues false then some { s with queue := i.push s.queue, posting := s.posting + 1 }
    else some s
  | .post =>
    if s.posting = 0 then none
    else some { s with queue := s.queue.post 1, posting := s.posting - 1 }
  | .worker w r =>
    match s.workers[w]? with
    | none => none
    | some pc => (pc.next course w r s.queue).map fun (queue, pc') =>
        { s with queue, workers := s.workers.set w pc' }
  | .stop order =>
    if s.stopping = .idle ∧ order.Perm (List.range s.workers.length) then
      some { s with stopping := .joinAll order }
    else none
  | .join =>
    match s.stopping with
    | .joinAll [] => some { s with stopping := .pushExit }
    | .joinAll (w :: ws) =>
      match s.workers[w]? with
      -- `join` waits until the thread has left `run`
      | some .left => some { s with stopping := .joinAll ws }
      | _ => none
    | _ => none
  | .pushExit =>
    if s.stopping = .pushExit then
      some { s with queue := s.queue.pushExit s.workers.length, stopping := .stopped }
    else none

end ThreadPool

/-! ### The steps of a thread -/

namespace Worker

variable {τ ρ : Type*} {course : τ → ρ → List (Input τ)} {w : ℕ} {r : ρ} {q q' : PoolQueue τ}
  {pc pc' : Worker τ}

/-- The steps of `next`, one by one. -/
inductive Next (course : τ → ρ → List (Input τ)) (w : ℕ) (r : ρ) (q : PoolQueue τ) :
    Worker τ → PoolQueue τ → Worker τ → Prop
  | wait {q' : PoolQueue τ} (h : q.wait = some q') : Next course w r q .wait q' .remove
  | refuse (h : q.list = []) : Next course w r q .remove q .left
  | take {q' : PoolQueue τ} {e : TokenQueue.Entry τ} (h : q.remove w = some (e, q')) :
    Next course w r q .remove q' (.running e (course e.value r))
  | finish {e : TokenQueue.Entry τ} : Next course w r q (.running e []) q .wait
  | push {e : TokenQueue.Entry τ} {i : Input τ} {rest : List (Input τ)} (h : i.queues true = true) :
    Next course w r q (.running e (i :: rest)) (q.insert i.first i.task) (.post e rest)
  | inPlace {e : TokenQueue.Entry τ} {i : Input τ} {rest : List (Input τ)}
    (h : i.queues true = false) :
    Next course w r q (.running e (i :: rest)) q (.running e (course i.task r ++ rest))
  | post {e : TokenQueue.Entry τ} {rest : List (Input τ)} :
    Next course w r q (.post e rest) (q.post 1) (.running e rest)

lemma next_eq_some_iff : pc.next course w r q = some (q', pc') ↔ Next course w r q pc q' pc' := by
  constructor
  · intro h
    cases pc with
    | wait =>
      obtain ⟨q'', hq, heq⟩ := Option.map_eq_some_iff.mp h
      cases heq
      exact .wait hq
    | remove =>
      rw [next] at h
      split at h
      · -- there is a token but no entry
        rename_i hq
        cases h
        exact .refuse (TokenQueue.remove_eq_none.mp hq)
      · rename_i e q'' hq
        cases h
        exact .take hq
    | running e rest =>
      cases rest with
      | nil =>
        cases h
        exact .finish
      | cons i rest =>
        rw [next] at h
        split at h
        · rename_i hi
          cases h
          rw [Input.push_eq_insert]
          exact .push hi
        · rename_i hi
          cases h
          exact .inPlace (Bool.not_eq_true _ ▸ hi)
    | post e rest =>
      cases h
      exact .post
    | left => cases h
  · intro h
    cases h with
    | wait h => rw [next, h, Option.map_some]
    | refuse h => rw [next, PoolQueue.getTask, TokenQueue.remove_eq_none.mpr h]
    | take h => rw [next, PoolQueue.getTask, h]
    | finish => rfl
    | push h => rw [next, if_pos h, Input.push_eq_insert]
    | inPlace h => rw [next, if_neg (by simp [h])]
    | post => rfl

lemma Next.recorded (h : Next course w r q pc q' pc') (hq : q.Recorded) : q'.Recorded := by
  cases h with
  | wait hs => exact hq.wait hs
  | refuse => exact hq
  | take hs => exact hq.remove hs
  | finish => exact hq
  | push => exact hq.insert _ _
  | inPlace => exact hq
  | post => exact hq.post 1

lemma list_ne_nil {l : List (Worker τ)} {posting : ℕ} (hw : l[w]? = some .remove)
    (hq : q.Balanced (l.map holds).sum posting) : q.list ≠ [] := by
  have hholds := Threads.sum_map_set holds .left hw
  simp only [holds, Nat.add_zero] at hholds
  rw [← hholds] at hq
  exact hq.list_ne_nil

/-- A token goes from the semaphore to a thread and is gone with the entry; a thread that inserts
has a token to post. -/
lemma Next.balanced (h : Next course w r q pc q' pc') {l : List (Worker τ)} {posting : ℕ}
    (hw : l[w]? = some pc)
    (hq : q.Balanced (l.map holds).sum (posting + (l.map posts).sum)) :
    q'.Balanced ((l.set w pc').map holds).sum (posting + ((l.set w pc').map posts).sum) := by
  have hholds := Threads.sum_map_set holds pc' hw
  have hposts := Threads.sum_map_set posts pc' hw
  cases h with
  | wait hs =>
    simp only [holds, posts, Nat.add_zero] at hholds hposts
    rw [hholds, hposts]
    exact hq.wait hs
  -- a thread with a token finds an entry
  | refuse hs => exact absurd hs (list_ne_nil hw hq)
  | take hs =>
    simp only [holds, posts, Nat.add_zero] at hholds hposts
    rw [← hholds] at hq
    rw [hposts]
    exact hq.remove hs
  | finish =>
    simp only [holds, posts, Nat.add_zero] at hholds hposts
    rw [hholds, hposts]
    exact hq
  | push =>
    simp only [holds, posts, Nat.add_zero] at hholds hposts
    rw [hholds, hposts]
    exact hq.insert _ _
  | inPlace =>
    simp only [holds, posts, Nat.add_zero] at hholds hposts
    rw [hholds, hposts]
    exact hq
  | post =>
    simp only [holds, posts, Nat.add_zero] at hholds hposts
    rw [← hposts] at hq
    rw [hholds]
    exact hq.post

lemma Next.ne_left (h : Next course w r q pc q' pc') {l : List (Worker τ)} {posting : ℕ}
    (hw : l[w]? = some pc) (hq : q.Balanced (l.map holds).sum posting) : pc' ≠ .left := by
  cases h with
  | refuse hs => exact absurd hs (list_ne_nil hw hq)
  | _ => simp

end Worker

namespace ThreadPool

variable {τ ρ : Type*} {course : τ → ρ → List (Input τ)} {s s' : ThreadPool τ}

lemma step_input {i : Input τ} (h : s.step course (.input i : ThreadPoolAction τ ρ) = some s') :
    s' = s ∨ s' = { s with queue := s.queue.insert i.first i.task, posting := s.posting + 1 } := by
  rw [step, Input.push_eq_insert] at h
  split at h
  · exact Or.inr (Option.some.inj h).symm
  · exact Or.inl (Option.some.inj h).symm

lemma step_post (h : s.step course (.post : ThreadPoolAction τ ρ) = some s') :
    0 < s.posting ∧ s' = { s with queue := s.queue.post 1, posting := s.posting - 1 } := by
  rw [step] at h
  split_ifs at h with h0
  exact ⟨Nat.pos_of_ne_zero h0, (Option.some.inj h).symm⟩

lemma step_worker {w : ℕ} {r : ρ} : s.step course (.worker w r) = some s' ↔
    ∃ pc queue pc', s.workers[w]? = some pc ∧ Worker.Next course w r s.queue pc queue pc' ∧
      s' = { s with queue, workers := s.workers.set w pc' } := by
  rw [step]
  cases hw : s.workers[w]? with
  | none => simp
  | some pc =>
    simp only [Option.map_eq_some_iff, Prod.exists, Worker.next_eq_some_iff]
    constructor
    · rintro ⟨queue, pc', hn, rfl⟩
      exact ⟨pc, queue, pc', rfl, hn, rfl⟩
    · rintro ⟨_, queue, pc', heq, hn, rfl⟩
      cases heq
      exact ⟨queue, pc', hn, rfl⟩

lemma step_join (h : s.step course (.join : ThreadPoolAction τ ρ) = some s') :
    (s.stopping = .joinAll [] ∧ s' = { s with stopping := .pushExit }) ∨
      ∃ w ws, s.stopping = .joinAll (w :: ws) ∧ s.workers[w]? = some .left ∧
        s' = { s with stopping := .joinAll ws } := by
  rw [step] at h
  split at h
  · rename_i hs
    exact Or.inl ⟨hs, (Option.some.inj h).symm⟩
  · rename_i w ws hs
    split at h
    · rename_i hw
      exact Or.inr ⟨w, ws, hs, hw, (Option.some.inj h).symm⟩
    · cases h
  · cases h

lemma step_stop {order : List ℕ}
    (h : s.step course (.stop order : ThreadPoolAction τ ρ) = some s') :
    s.stopping = .idle ∧ order.Perm (List.range s.workers.length) ∧
      s' = { s with stopping := .joinAll order } := by
  rw [step] at h
  split_ifs at h with hs
  exact ⟨hs.1, hs.2, (Option.some.inj h).symm⟩

lemma step_pushExit (h : s.step course (.pushExit : ThreadPoolAction τ ρ) = some s') :
    s.stopping = .pushExit ∧
      s' = { s with queue := s.queue.post s.workers.length, stopping := .stopped } := by
  rw [step] at h
  split_ifs at h with hs
  exact ⟨hs, (Option.some.inj h).symm⟩

/-! ### Each task once -/

def Blocked (s : ThreadPool τ) : Prop :=
  s.queue.count = 0 ∧ ∀ pc ∈ s.workers, pc = .wait

lemma Blocked.sum_eq_zero (h : s.Blocked) {tokens : Worker τ → ℕ} (hwait : tokens .wait = 0) :
    (s.workers.map tokens).sum = 0 := by
  apply List.sum_eq_zero_iff_forall_eq_nat.mpr
  intro k hk
  obtain ⟨pc, hpc, rfl⟩ := List.mem_map.mp hk
  rw [h.2 pc hpc, hwait]

lemma blocked_start (n : ℕ) : (start n : ThreadPool τ).Blocked :=
  ⟨rfl, fun _ hpc => List.eq_of_mem_replicate hpc⟩

/-- The tokens balance, and no thread has been refused a task. -/
structure Sound (s : ThreadPool τ) : Prop where
  recorded : s.queue.Recorded
  balanced : s.queue.Balanced (s.workers.map Worker.holds).sum
    (s.posting + (s.workers.map Worker.posts).sum)
  notLeft : ∀ pc ∈ s.workers, pc ≠ .left

lemma sound_start (n : ℕ) : (start n : ThreadPool τ).Sound := by
  constructor
  · exact TokenQueue.recorded_new
  · show TokenQueue.Balanced _ _ (0 + _)
    rw [(blocked_start n).sum_eq_zero rfl, (blocked_start n).sum_eq_zero rfl]
    exact TokenQueue.balanced_new
  · intro pc hpc
    rw [(blocked_start n).2 pc hpc]
    simp

lemma Sound.step (h : s.Sound) {a : ThreadPoolAction τ ρ} (ha : a ≠ .pushExit)
    (hs : s.step course a = some s') : s'.Sound := by
  cases a with
  | input i =>
    rcases step_input hs with rfl | rfl
    · exact h
    · -- the entry is in the list before its token is posted
      refine ⟨h.recorded.insert _ _, ?_, h.notLeft⟩
      show TokenQueue.Balanced _ _ (s.posting + 1 + _)
      rw [Nat.add_right_comm]
      exact h.balanced.insert _ _
  | post =>
    obtain ⟨hpos, rfl⟩ := step_post hs
    refine ⟨h.recorded.post 1, TokenQueue.Balanced.post ?_, h.notLeft⟩
    show s.queue.Balanced _ (s.posting - 1 + _ + 1)
    rw [Nat.add_right_comm, Nat.sub_add_cancel hpos]
    exact h.balanced
  | worker w r =>
    obtain ⟨pc, queue, pc', hw, hn, rfl⟩ := step_worker.mp hs
    refine ⟨hn.recorded h.recorded, hn.balanced hw h.balanced, fun p hp => ?_⟩
    rcases List.mem_or_eq_of_mem_set hp with hp | rfl
    · exact h.notLeft p hp
    · exact hn.ne_left hw h.balanced
  | stop order =>
    obtain ⟨_, _, rfl⟩ := step_stop hs
    exact ⟨h.recorded, h.balanced, h.notLeft⟩
  | join =>
    rcases step_join hs with ⟨_, rfl⟩ | ⟨_, _, _, _, rfl⟩
    · exact ⟨h.recorded, h.balanced, h.notLeft⟩
    · exact ⟨h.recorded, h.balanced, h.notLeft⟩
  | pushExit => exact absurd rfl ha

/-- No caller, in the pool or outside, is between its insertion and its post. -/
def NonePosting (s : ThreadPool τ) : Prop :=
  s.posting = 0 ∧ ∀ pc ∈ s.workers, pc.posts = 0

/-- No `get_task` has returned `false`, the tasks handed out are pushed ones, each handed out once,
those of `push_task` in the order of insertion, and none is left behind when all threads block. -/
structure HandsOnce (s : ThreadPool τ) : Prop where
  notRefused : ∀ pc ∈ s.workers, pc ≠ .left
  distinct : (s.queue.inserted.map TokenQueue.Entry.num).Nodup
  once : s.queue.handed.Nodup
  pushed : ∀ e ∈ s.queue.handed, e ∈ s.queue.inserted
  inOrder : TokenQueue.backs s.queue.handed <+: TokenQueue.backs s.queue.inserted
  drained : s.Blocked → s.NonePosting → s.queue.list = []

lemma Sound.handsOnce (h : s.Sound) : s.HandsOnce where
  notRefused := h.notLeft
  distinct := by
    rw [h.recorded.nums]
    exact List.nodup_range
  once := h.recorded.handed_nodup
  pushed := fun _ he => h.recorded.mem_inserted he
  inOrder := h.recorded.backs_prefix
  drained := by
    intro hblocked hposting
    have hbal := h.balanced
    rw [hblocked.sum_eq_zero rfl, hblocked.sum_eq_zero rfl, hposting.1] at hbal
    exact hbal.list_eq_nil hblocked.1

/-- As long as `push_exit` has not been called, the queue hands out each task once, whatever callers
and threads do. -/
theorem handsOnce_of_run {n : ℕ} {as : List (ThreadPoolAction τ ρ)}
    (hexit : ∀ a ∈ as, a ≠ .pushExit) (hrun : Run.run (step course) (start n) as = some s) :
    s.HandsOnce := by
  have hmeets : Run.Meets (step course) (fun _ a => a ≠ .pushExit) (start n) as :=
    Run.meets_of_forall (fun a ha _ => hexit a ha) _
  have hsound : s.Sound :=
    Run.run_invariant (fun _ _ _ hs ha hstep => hs.step ha hstep) (sound_start n) hmeets hrun
  exact hsound.handsOnce

/-- A task that hands its successor to the pool at the front of the queue, as long as its number is
positive. -/
def countdown (k : ℕ) (_ : Unit) : List (Input ℕ) :=
  if k = 0 then [] else [⟨k - 1, true, false⟩]

/-- A caller outside inserts two tasks; the first one inserts another at the front, which goes to
the thread that was let through for the second. -/
def twoThreads : List (ThreadPoolAction ℕ Unit) :=
  [.input ⟨1, false, true⟩, .input ⟨5, false, true⟩, .post, .worker 1 (), .worker 1 (), .post,
    .worker 1 (), .worker 0 (), .worker 0 ()]

theorem handsOnce_two_threads :
    ∃ s, Run.run (step countdown) (start 2) twoThreads = some s ∧
      s.queue.removed.map (fun h => (h.1, h.2.value)) = [(1, 1), (0, 0)] ∧ s.HandsOnce := by
  have hrun : Run.run (step countdown) (start 2) twoThreads = some _ := rfl
  have hexit : ∀ a ∈ twoThreads, a ≠ .pushExit := by decide
  exact ⟨_, hrun, rfl, handsOnce_of_run hexit hrun⟩

end ThreadPool

end DHGateway
