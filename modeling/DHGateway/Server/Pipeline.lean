import DHGateway.Pool.ThreadPool
import DHGateway.Server.TaskThreads

/-!
# From a received message to a thread of the pool

`insert_task`, `erase_task` and the loop of `handle_msg_func`, which hands each message to
`sdk_thread` as a task, with the threads of that pool. The tasks themselves hand nothing to the
pool.
-/

namespace DHGateway

/-- Where `handle_msg_func` is: in `erase_task`, before the insertion of `input_task`, or before its
post. -/
inductive HandleMsg where
  | eraseTask
  | inputTask (msg : String)
  | post
  deriving DecidableEq

/-- The message that it has taken and not handed to the pool yet. -/
def HandleMsg.inHand : HandleMsg → List String
  | .inputTask msg => [msg]
  | .eraseTask | .post => []

def HandleMsg.posts : HandleMsg → ℕ
  | .post => 1
  | .eraseTask | .inputTask _ => 0

/-- The received messages, `handle_msg_func` and `sdk_thread`. -/
structure Pipeline where
  tasks : TaskQueue
  handling : HandleMsg
  pool : ThreadPool String

/-- A step of a caller of `insert_task`, of `handle_msg_func`, or of a thread of the pool. -/
inductive PipelineAction where
  | insertTask (msg : String)
  | signal
  | handleMsg
  | worker (w : ℕ)

def PipelineAction.Own : PipelineAction → Prop
  | .insertTask _ => False
  | .signal | .handleMsg | .worker _ => True

namespace Pipeline

/-- Before the first message, with `n` threads in the pool. -/
def start (n : ℕ) : Pipeline := ⟨.start, .eraseTask, .start n⟩

/-- The calls to the pool that the task of a message makes. -/
def course (_ : String) (_ : Unit) : List (Input String) := []

/-- What `handle_msg_func` goes on with after a step of `erase_task`. -/
def erased (tasks : TaskQueue) : HandleMsg :=
  match tasks.consumer, tasks.queue.list with
  | .erase, msg :: _ => .inputTask msg
  | _, _ => .eraseTask

/-- The next step of `handle_msg_func`. -/
def handleMsg (s : Pipeline) : Option Pipeline :=
  match s.handling with
  | .eraseTask => s.tasks.eraseTask.map fun tasks => { s with tasks, handling := erased s.tasks }
  | .inputTask msg => (s.pool.step course (.input ⟨msg, false, true⟩)).map fun pool =>
      { s with pool, handling := .post }
  | .post => (s.pool.step course .post).map fun pool => { s with pool, handling := .eraseTask }

def step (s : Pipeline) : PipelineAction → Option Pipeline
  | .insertTask msg => (s.tasks.step (.insertTask msg)).map fun tasks => { s with tasks }
  | .signal => (s.tasks.step .signal).map fun tasks => { s with tasks }
  | .handleMsg => s.handleMsg
  | .worker w => (s.pool.step course (.worker w ())).map fun pool => { s with pool }

def received (s : Pipeline) : List String := s.tasks.queue.pushed

/-- The messages whose task a thread of the pool has got, in this order. -/
def started (s : Pipeline) : List String := s.pool.queue.handed.map TokenQueue.Entry.value

def waiting (s : Pipeline) : List String :=
  s.pool.queue.list.map TokenQueue.Entry.value ++ s.handling.inHand ++ s.tasks.queue.list

/-! ### One step -/

/-- The steps of `handle_msg_func` and of the pool, one by one. -/
inductive Step (s : Pipeline) : PipelineAction → Pipeline → Prop
  | insertTask (msg : String) : Step s (.insertTask msg)
      { s with tasks := { s.tasks with queue := s.tasks.queue.push msg } }
  | signal {q : EventQueue String} (h : s.tasks.queue.signal = some q) :
    Step s .signal { s with tasks := { s.tasks with queue := q } }
  | eraseTask {tasks : TaskQueue} (hh : s.handling = .eraseTask)
      (h : s.tasks.eraseTask = some tasks) :
    Step s .handleMsg { s with tasks, handling := erased s.tasks }
  | inputTask {msg : String} (hh : s.handling = .inputTask msg) : Step s .handleMsg
      { s with handling := .post
               pool := { s.pool with
                 queue := s.pool.queue.insert false msg, posting := s.pool.posting + 1 } }
  | post (hh : s.handling = .post) (h : 0 < s.pool.posting) : Step s .handleMsg
      { s with handling := .eraseTask
               pool := { s.pool with
                 queue := s.pool.queue.post 1, posting := s.pool.posting - 1 } }
  | worker {w : ℕ} {pc pc' : Worker String} {queue : PoolQueue String}
    (hw : s.pool.workers[w]? = some pc) (h : Worker.Next course w () s.pool.queue pc queue pc') :
    Step s (.worker w)
      { s with pool := { s.pool with queue, workers := s.pool.workers.set w pc' } }

variable {s s' : Pipeline} {a : PipelineAction}

lemma step_cases (hs : s.step a = some s') : Step s a s' := by
  cases a with
  | insertTask msg => exact Option.some.inj hs ▸ .insertTask msg
  | signal =>
    obtain ⟨tasks, ht, rfl⟩ := Option.map_eq_some_iff.mp hs
    obtain ⟨q, hq, rfl⟩ := Option.map_eq_some_iff.mp ht
    exact .signal hq
  | handleMsg =>
    rw [step, handleMsg] at hs
    cases hh : s.handling with
    | eraseTask =>
      simp only [hh, Option.map_eq_some_iff] at hs
      obtain ⟨tasks, ht, rfl⟩ := hs
      exact .eraseTask hh ht
    | inputTask msg =>
      simp only [hh, Option.map_eq_some_iff] at hs
      obtain ⟨pool, hp, rfl⟩ := hs
      cases hp
      exact .inputTask hh
    | post =>
      simp only [hh, Option.map_eq_some_iff] at hs
      obtain ⟨pool, hp, rfl⟩ := hs
      obtain ⟨hpos, rfl⟩ := ThreadPool.step_post hp
      exact .post hh hpos
  | worker w =>
    obtain ⟨pool, hp, rfl⟩ := Option.map_eq_some_iff.mp hs
    obtain ⟨pc, queue, pc', hw, hn, rfl⟩ := ThreadPool.step_worker.mp hp
    exact .worker hw hn

lemma Step.step_eq (h : Step s a s') : s.step a = some s' := by
  cases h with
  | insertTask msg => rfl
  | signal h => simp [step, TaskQueue.step, h]
  | eraseTask hh h => simp [step, handleMsg, hh, h]
  | inputTask hh => simp [step, handleMsg, hh, ThreadPool.step, Input.queues, Input.push_eq_insert]
  | post hh h => simp [step, handleMsg, hh, ThreadPool.step, h.ne']
  | worker hw h =>
    simp only [step, ThreadPool.step_worker.mpr ⟨_, _, _, hw, h, rfl⟩, Option.map_some]

/-! ### Nothing is lost between the queues -/

/-- The two queues are sound, and what the first one has given is what the second one has got, or in
the hand of `handle_msg_func`. -/
structure Inv (s : Pipeline) : Prop where
  tasks : s.tasks.Inv
  pool : s.pool.Sound
  back : ∀ e ∈ s.pool.queue.inserted, e.first = false
  taken : s.tasks.queue.taken =
    s.pool.queue.inserted.map TokenQueue.Entry.value ++ s.handling.inHand
  posting : s.pool.posting = s.handling.posts
  calls : ∀ pc ∈ s.pool.workers, pc.rest = [] ∧ pc.posts = 0

lemma inv_start (n : ℕ) : (start n).Inv where
  tasks := TaskQueue.inv_start
  pool := ThreadPool.sound_start n
  back := fun _ he => absurd he List.not_mem_nil
  taken := rfl
  posting := rfl
  calls := by
    intro pc hpc
    rw [(ThreadPool.blocked_start n).2 pc hpc]
    exact ⟨rfl, rfl⟩

lemma taken_of_eraseTask {tasks tasks' : TaskQueue} (h : tasks.eraseTask = some tasks') :
    tasks'.queue.taken = tasks.queue.taken ++ (erased tasks).inHand := by
  rw [TaskQueue.eraseTask] at h
  cases hc : tasks.consumer with
  | testEmpty =>
    simp only [hc, Option.some.injEq] at h
    rw [← h, erased, hc]
    exact (List.append_nil _).symm
  | wait =>
    simp only [hc, Option.map_eq_some_iff] at h
    obtain ⟨q, hq, rfl⟩ := h
    obtain ⟨_, rfl⟩ := EventQueue.wait_eq_some.mp hq
    rw [erased, hc]
    exact (List.append_nil _).symm
  | erase =>
    simp only [hc, Option.some.injEq] at h
    rw [← h, erased, hc]
    cases hl : tasks.queue.list with
    | nil => simp [EventQueue.take, hl, HandleMsg.inHand]
    | cons msg list => simp [EventQueue.take, hl, HandleMsg.inHand]

/-- A thread whose task makes no calls inserts nothing. -/
lemma inserted_of_next {w : ℕ} {q q' : PoolQueue String} {pc pc' : Worker String}
    (h : Worker.Next course w () q pc q' pc') (hpc : pc.rest = [] ∧ pc.posts = 0) :
    q'.inserted = q.inserted ∧ pc'.rest = [] ∧ pc'.posts = 0 := by
  cases h with
  | wait h =>
    obtain ⟨_, rfl⟩ := TokenQueue.wait_eq_some.mp h
    exact ⟨rfl, rfl, rfl⟩
  | refuse => exact ⟨rfl, rfl, rfl⟩
  | take h =>
    obtain ⟨_, _, rfl⟩ := TokenQueue.remove_eq_some.mp h
    exact ⟨rfl, rfl, rfl⟩
  | finish => exact ⟨rfl, rfl, rfl⟩
  | push | inPlace => exact absurd hpc.1 (List.cons_ne_nil _ _)
  | post => exact absurd hpc.2 Nat.one_ne_zero

lemma Inv.step (h : s.Inv) (hs : Step s a s') : s'.Inv := by
  cases hs with
  | insertTask msg =>
    exact ⟨h.tasks.step (a := .insertTask msg) rfl, h.pool, h.back, h.taken, h.posting, h.calls⟩
  | signal hq =>
    have htasks := h.tasks.step (a := .signal) (by rw [TaskQueue.step, hq, Option.map_some])
    obtain ⟨_, rfl⟩ := EventQueue.signal_eq_some.mp hq
    exact ⟨htasks, h.pool, h.back, h.taken, h.posting, h.calls⟩
  -- `handle_msg` has nothing in hand when it takes the next message
  | eraseTask hh he =>
    refine ⟨h.tasks.eraseTask he, h.pool, h.back, ?_, ?_, h.calls⟩
    · have htaken := h.taken
      rw [hh, HandleMsg.inHand, List.append_nil] at htaken
      rw [taken_of_eraseTask he, htaken]
    · have hposts : (erased s.tasks).posts = 0 := by
        rw [erased]
        split <;> rfl
      rw [hposts, h.posting, hh]
      rfl
  | @inputTask msg hh =>
    have hpool : s.pool.step course (.input ⟨msg, false, true⟩) = some _ := rfl
    refine ⟨h.tasks, h.pool.step (a := .input _) nofun hpool, fun e he => ?_, ?_, ?_, h.calls⟩
    · rcases List.mem_append.mp he with he | he
      · exact h.back e he
      · rw [List.eq_of_mem_singleton he]
        rfl
    · show s.tasks.queue.taken = (s.pool.queue.inserted ++ [_]).map _ ++ []
      rw [h.taken, hh, List.map_append, List.append_nil]
      rfl
    · show s.pool.posting + 1 = 1
      rw [h.posting, hh]
      rfl
  | post hh hpos =>
    have hpool : s.pool.step course .post = some _ := if_neg hpos.ne'
    refine ⟨h.tasks, h.pool.step (a := .post) nofun hpool, h.back, ?_, ?_, h.calls⟩
    · rw [h.taken, hh]
      rfl
    · show s.pool.posting - 1 = 0
      rw [h.posting, hh]
      rfl
  -- a handler pushes no task, so the pool's list is fed by `handle_msg` alone
  | worker hw hn =>
    have hpool := h.pool.step (a := .worker _ ()) nofun
      (ThreadPool.step_worker.mpr ⟨_, _, _, hw, hn, rfl⟩)
    obtain ⟨hins, hcalls⟩ := inserted_of_next hn (h.calls _ (List.mem_of_getElem? hw))
    refine ⟨h.tasks, hpool, ?_, ?_, h.posting, fun pc hpc => ?_⟩
    · exact hins ▸ h.back
    · exact h.taken.trans (by rw [hins])
    · rcases List.mem_or_eq_of_mem_set hpc with hpc | rfl
      · exact h.calls pc hpc
      · exact hcalls

lemma Inv.handed_append (h : s.Inv) :
    s.pool.queue.handed ++ s.pool.queue.list = s.pool.queue.inserted := by
  have hback : ∀ {l : List (TokenQueue.Entry String)}, (∀ e ∈ l, e.first = false) →
      TokenQueue.backs l = l := by
    intro l hl
    exact List.filter_eq_self.mpr fun e he => by rw [hl e he]; rfl
  have horder := h.pool.recorded.order
  rwa [hback h.back, hback fun e he => h.back e (h.pool.recorded.perm.mem_iff.mp he)] at horder

/-- Each message received is with a thread or on its way to one, in the order of arrival. -/
lemma Inv.received_eq (h : s.Inv) : s.received = s.started ++ s.waiting := by
  have horder := congrArg (List.map TokenQueue.Entry.value) h.handed_append
  rw [List.map_append] at horder
  have hreceived : s.received = s.tasks.queue.taken ++ s.tasks.queue.list := h.tasks.inOrder
  rw [hreceived, h.taken, ← horder, started, waiting]
  simp only [List.append_assoc]

/-! ### The pipeline at rest -/

/-- Nobody has a step to make: `handle_msg_func` waits for a signal, and the threads of the pool
wait for a token. -/
structure Resting (s : Pipeline) : Prop where
  handling : s.handling = .eraseTask
  consumer : s.tasks.consumer = .wait
  count : s.tasks.queue.count = 0
  signalling : s.tasks.queue.signalling = 0
  pool : s.pool.Blocked

lemma Inv.started_eq (h : s.Inv) (hrest : s.Resting) : s.started = s.received := by
  have htasks : s.tasks.queue.list = [] :=
    (h.tasks.covered hrest.consumer).list_eq_nil hrest.count hrest.signalling
  have hposting : s.pool.NonePosting := by
    refine ⟨?_, fun pc hpc => (h.calls pc hpc).2⟩
    rw [h.posting, hrest.handling]
    rfl
  have hlist : s.pool.queue.list = [] := h.pool.handsOnce.drained hrest.pool hposting
  rw [h.received_eq, waiting, hlist, htasks, hrest.handling]
  simp [HandleMsg.inHand]

lemma exists_next {w : ℕ} {q : PoolQueue String} {pc : Worker String} (hwait : pc ≠ .wait)
    (hleft : pc ≠ .left) : ∃ q' pc', Worker.Next course w () q pc q' pc' := by
  cases pc with
  | wait => exact absurd rfl hwait
  | left => exact absurd rfl hleft
  | remove =>
    cases hq : q.remove w with
    | none => exact ⟨_, _, .refuse (TokenQueue.remove_eq_none.mp hq)⟩
    | some r => exact ⟨_, _, .take hq⟩
  | running e rest =>
    cases rest with
    | nil => exact ⟨_, _, .finish⟩
    | cons i rest =>
      cases hi : i.queues true with
      | true => exact ⟨_, _, .push hi⟩
      | false => exact ⟨_, _, .inPlace hi⟩
  | post e rest => exact ⟨_, _, .post⟩

lemma Inv.exists_worker (h : s.Inv) (hn : s.pool.workers ≠ []) (hpool : ¬ s.pool.Blocked) :
    ∃ w s', Step s (.worker w) s' := by
  by_cases hall : ∀ pc ∈ s.pool.workers, pc = .wait
  · have hcount : s.pool.queue.count ≠ 0 := fun h0 => hpool ⟨h0, hall⟩
    have hw : s.pool.workers[0]? = some .wait := by
      rw [List.getElem?_eq_getElem (List.length_pos_of_ne_nil hn)]
      exact congrArg some (hall _ (List.getElem_mem _))
    exact ⟨0, _, .worker hw (.wait (if_neg hcount))⟩
  · obtain ⟨pc, hpc, hwait⟩ : ∃ pc ∈ s.pool.workers, pc ≠ .wait := by simpa using hall
    obtain ⟨w, hw⟩ := List.getElem?_of_mem hpc
    obtain ⟨q', pc', hnext⟩ := exists_next hwait (h.pool.notLeft pc hpc)
    exact ⟨w, _, .worker hw hnext⟩

lemma exists_eraseTask {tasks : TaskQueue} (h : tasks.consumer = .wait → 0 < tasks.queue.count) :
    ∃ tasks', tasks.eraseTask = some tasks' := by
  rw [TaskQueue.eraseTask]
  cases hc : tasks.consumer with
  | testEmpty => exact ⟨_, rfl⟩
  | wait =>
    obtain ⟨q, hq⟩ : ∃ q, tasks.queue.wait = some q := ⟨_, if_neg (h hc).ne'⟩
    exact ⟨⟨q, .erase⟩, congrArg (Option.map _) hq⟩
  | erase => exact ⟨_, rfl⟩

lemma Inv.exists_step (h : s.Inv) (hn : s.pool.workers ≠ []) (hrest : ¬ s.Resting) :
    ∃ a s', a.Own ∧ s.step a = some s' := by
  by_cases hpool : s.pool.Blocked
  · cases hh : s.handling with
    | inputTask msg => exact ⟨.handleMsg, _, trivial, (Step.inputTask hh).step_eq⟩
    | post =>
      have hpos : 0 < s.pool.posting := by
        rw [h.posting, hh]
        exact Nat.one_pos
      exact ⟨.handleMsg, _, trivial, (Step.post hh hpos).step_eq⟩
    | eraseTask =>
      by_cases hwait : s.tasks.consumer = .wait → 0 < s.tasks.queue.count
      · obtain ⟨tasks, ht⟩ := exists_eraseTask hwait
        exact ⟨.handleMsg, _, trivial, (Step.eraseTask hh ht).step_eq⟩
      · -- `handle_msg` waits without a token, so an `insert_task` has yet to post one
        obtain ⟨hc, hcount⟩ := Classical.not_imp.mp hwait
        have hsignal : s.tasks.queue.signalling ≠ 0 := fun h0 =>
          hrest ⟨hh, hc, Nat.le_zero.mp (Nat.not_lt.mp hcount), h0, hpool⟩
        exact ⟨.signal, _, trivial, (Step.signal (if_neg hsignal)).step_eq⟩
  · obtain ⟨w, s', hs⟩ := h.exists_worker hn hpool
    exact ⟨.worker w, s', trivial, hs.step_eq⟩

/-- What a thread of the pool may yet do with the entry that it has got. -/
def workerLeft : Worker String → ℕ
  | .remove | .running _ _ => 1
  | .wait | .post _ _ | .left => 0

/-- What `handle_msg_func` may yet do with the message that it has taken. -/
def handlingLeft : HandleMsg → ℕ
  | .eraseTask => 0
  | .inputTask _ => 5
  | .post => 3

/-- What `erase_task` and the callers of `insert_task` may yet do. -/
def tasksLeft (tasks : TaskQueue) : ℕ :=
  11 * tasks.queue.list.length + 9 * tasks.queue.signalling + 8 * tasks.queue.count +
    TaskThreads.stageLeft tasks.queue.list tasks.consumer

def poolLeft (queue : PoolQueue String) (workers : List (Worker String)) : ℕ :=
  queue.list.length + 2 * queue.count + (workers.map workerLeft).sum

def left (s : Pipeline) : ℕ :=
  tasksLeft s.tasks + handlingLeft s.handling + poolLeft s.pool.queue s.pool.workers

lemma tasksLeft_eraseTask {tasks tasks' : TaskQueue} (h : tasks.eraseTask = some tasks') :
    tasksLeft tasks' + handlingLeft (erased tasks) < tasksLeft tasks := by
  rw [TaskQueue.eraseTask] at h
  cases hc : tasks.consumer with
  | testEmpty =>
    simp only [hc, Option.some.injEq] at h
    rw [← h, erased, hc]
    cases hl : tasks.queue.list <;>
      simp [tasksLeft, TaskThreads.stageLeft, handlingLeft, hc, hl]
  | wait =>
    simp only [hc, Option.map_eq_some_iff] at h
    obtain ⟨q, hq, rfl⟩ := h
    obtain ⟨hpos, rfl⟩ := EventQueue.wait_eq_some.mp hq
    have hle := TaskThreads.stageLeft_le tasks.queue.list .erase
    have hwait : TaskThreads.stageLeft tasks.queue.list .wait = 0 := rfl
    simp only [tasksLeft, erased, hc, handlingLeft]
    omega
  | erase =>
    simp only [hc, Option.some.injEq] at h
    rw [← h, erased, hc]
    cases hl : tasks.queue.list with
    -- a token whose message was taken before it
    | nil => simp [tasksLeft, TaskThreads.stageLeft, handlingLeft, EventQueue.take, hc, hl]
    | cons msg list =>
      have hle := TaskThreads.stageLeft_le list .testEmpty
      have herase : TaskThreads.stageLeft (msg :: list) .erase = 2 := rfl
      simp only [tasksLeft, EventQueue.take, hc, hl, Option.getD_some, List.length_cons,
        handlingLeft]
      omega

lemma poolLeft_next {w : ℕ} {q q' : PoolQueue String} {pc pc' : Worker String}
    {workers : List (Worker String)} (hw : workers[w]? = some pc)
    (hn : Worker.Next course w () q pc q' pc') (hlist : pc = .remove → q.list ≠ [])
    (hcalls : pc.rest = [] ∧ pc.posts = 0) :
    poolLeft q' (workers.set w pc') < poolLeft q workers := by
  have hsum := Threads.sum_map_set workerLeft pc' hw
  cases hn with
  | wait h =>
    obtain ⟨hpos, rfl⟩ := TokenQueue.wait_eq_some.mp h
    simp only [poolLeft, workerLeft] at hsum ⊢
    omega
  | refuse h => exact absurd h (hlist rfl)
  | take h =>
    obtain ⟨l, hl, rfl⟩ := TokenQueue.remove_eq_some.mp h
    simp only [poolLeft, workerLeft, hl, List.length_cons] at hsum ⊢
    omega
  | finish =>
    simp only [poolLeft, workerLeft] at hsum ⊢
    omega
  | push | inPlace => exact absurd hcalls.1 (List.cons_ne_nil _ _)
  | post => exact absurd hcalls.2 Nat.one_ne_zero

lemma Inv.left_step (h : s.Inv) (ha : a.Own) (hs : Step s a s') : s'.left < s.left := by
  cases hs with
  | insertTask => exact ha.elim
  | signal hq =>
    obtain ⟨hpos, rfl⟩ := EventQueue.signal_eq_some.mp hq
    simp only [left, tasksLeft]
    omega
  | eraseTask hh he =>
    have hlt := tasksLeft_eraseTask he
    have hleft : handlingLeft .eraseTask = 0 := rfl
    simp only [left, hh]
    omega
  | inputTask hh =>
    simp only [left, poolLeft, hh, handlingLeft, TokenQueue.insert_list_length,
      TokenQueue.insert_count]
    omega
  | post hh hpos =>
    simp only [left, poolLeft, hh, handlingLeft, TokenQueue.post]
    omega
  | @worker w pc pc' queue hw hn =>
    have hlist : pc = .remove → s.pool.queue.list ≠ [] := by
      rintro rfl
      exact Worker.list_ne_nil hw h.pool.balanced
    have hlt := poolLeft_next hw hn hlist (h.calls pc (List.mem_of_getElem? hw))
    exact Nat.add_lt_add_left hlt _

lemma workers_length_step (hs : Step s a s') :
    s'.pool.workers.length = s.pool.workers.length := by
  cases hs with
  | worker => exact List.length_set
  | _ => rfl

lemma inv_of_run {n : ℕ} {as : List PipelineAction} (hrun : Run.run step (start n) as = some s) :
    s.Inv ∧ s.pool.workers.length = n := by
  refine Run.reachable_invariant (I := fun s => s.Inv ∧ s.pool.workers.length = n)
    (fun s a s' h hs => ?_) ⟨inv_start n, List.length_replicate⟩ hrun
  have hstep := step_cases hs
  exact ⟨h.1.step hstep, (workers_length_step hstep).trans h.2⟩

end Pipeline

/-- In every state that callers of `insert_task`, `handle_msg_func` and the threads of `sdk_thread`
reach together, each message received has been given to one thread of the pool or is on its way, in
the order of arrival, and none is given twice. If no message comes they make no more than a bounded
number of steps, one of them has a step as long as they are not at rest, and at rest each message
has been given to a thread. -/
theorem each_message_one_task {n : ℕ} (hn : 0 < n) {as : List PipelineAction} {s : Pipeline}
    (hrun : Run.run Pipeline.step (Pipeline.start n) as = some s) :
    s.received = s.started ++ s.waiting ∧ s.pool.queue.handed.Nodup ∧
    (∀ bs t, (∀ b ∈ bs, b.Own) → Run.run Pipeline.step s bs = some t → bs.length ≤ s.left) ∧
    (¬ s.Resting → ∃ a s', a.Own ∧ s.step a = some s') ∧
    (s.Resting → s.started = s.received) := by
  obtain ⟨h, hlen⟩ := Pipeline.inv_of_run hrun
  have hworkers : s.pool.workers ≠ [] := List.ne_nil_of_length_pos (hlen ▸ hn)
  refine ⟨h.received_eq, h.pool.handsOnce.once, fun bs t hown hbs => ?_,
    h.exists_step hworkers, h.started_eq⟩
  have hmeets : Run.Meets Pipeline.step (fun _ a => a.Own) s bs :=
    Run.meets_of_forall (fun a ha _ => hown a ha) s
  -- no message comes in, so each step leaves less to do
  have hle := Run.length_le_of_decreasing (fun s a s' (h : s.Inv) ha hs =>
    ⟨h.step (Pipeline.step_cases hs), h.left_step ha (Pipeline.step_cases hs)⟩) h hmeets hbs
  omega

/-- Two messages, of which the second one is inserted while the first one is on its way. -/
def twoMessages : List PipelineAction :=
  [.insertTask "a", .handleMsg, .handleMsg, .signal, .handleMsg, .insertTask "b", .handleMsg,
    .worker 1, .handleMsg, .signal, .handleMsg, .worker 1, .handleMsg, .handleMsg, .worker 0,
    .worker 0]

theorem each_message_one_task_two :
    ∃ s, Run.run Pipeline.step (Pipeline.start 5) twoMessages = some s ∧
      s.started = ["a", "b"] ∧ s.received = s.started ++ s.waiting := by
  have hrun : Run.run Pipeline.step (Pipeline.start 5) twoMessages = some _ := rfl
  exact ⟨_, hrun, rfl, (each_message_one_task (by decide) hrun).1⟩

end DHGateway
