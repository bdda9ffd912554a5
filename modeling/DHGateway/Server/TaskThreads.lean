import DHGateway.Core.CondEvent
import DHGateway.Server.MsgQueues

/-!
# The threads at the queue of received messages

`insert_task` and `erase_task` with `_msg_ev` as what it is, an `event_condition_variable`: thread 0
runs `handle_msg_func`, the others receive. What the queue does with the event at once, it does with
the mutex, the condition variable and its sleepers as well, and no message is left in the list
because its signal woke nobody.
-/

namespace DHGateway

/-- `_msg_list`, `_msg_ev` with the threads in its calls, and where `erase_task` is. -/
structure TaskThreads where
  list : List String
  event : CondEvent
  consumer : EraseTask
  pushed : List String
  taken : List String

/-- A thread other than 0 has inserted and calls `signal`, `erase_task` makes a step outside the
event, a thread makes a step in a call of the event, or wakes for no reason. -/
inductive TaskThreadsAction where
  | insertTask (i : ℕ) (msg : String)
  | eraseTask
  | event (i sleeper : ℕ)
  | spurious (i : ℕ)

/-- A step that a thread makes by itself: no new message, and nobody wakes for no reason. -/
def TaskThreadsAction.Own : TaskThreadsAction → Prop
  | .eraseTask | .event _ _ => True
  | .insertTask _ _ | .spurious _ => False

namespace TaskThreads

/-- Before the first message, with `k` threads that receive. -/
def start (k : ℕ) : TaskThreads := ⟨[], CondEvent.start (k + 1), .testEmpty, [], []⟩

/-- The steps of `erase_task` outside the event. -/
def eraseTask (s : TaskThreads) : Option TaskThreads :=
  match s.consumer with
  | .testEmpty =>
    if s.list.isEmpty then
      (s.event.step (.wait 0)).map fun event => { s with event, consumer := .wait }
    else some { s with consumer := .erase }
  | .wait => if s.event.threads[0]? = some .idle then some { s with consumer := .erase } else none
  | .erase =>
    match s.list with
    | [] => some { s with consumer := .testEmpty }
    | msg :: list => some { s with list, taken := s.taken ++ [msg], consumer := .testEmpty }

def step (s : TaskThreads) : TaskThreadsAction → Option TaskThreads
  | .insertTask i msg =>
    if i = 0 then none
    else (s.event.step (.signal i 1)).map fun event =>
      { s with event, list := s.list ++ [msg], pushed := s.pushed ++ [msg] }
  | .eraseTask => s.eraseTask
  | .event i sleeper => (s.event.step (.advance i sleeper)).map fun event => { s with event }
  | .spurious i => (s.event.step (.spurious i)).map fun event => { s with event }

/-! ### One thread takes, the others insert -/

/-- Thread 0 calls only `wait`, and is in it only where `erase_task` is; the other threads call only
`signal`. -/
structure Inv (s : TaskThreads) : Prop where
  event : s.event.Inv
  consumer : ∃ t, s.event.threads[0]? = some t ∧ t.Waits ∧ (s.consumer ≠ .wait → t = .idle)
  producers : ∀ i t, i ≠ 0 → s.event.threads[i]? = some t → t.SignalsOne

lemma inv_start (k : ℕ) : (start k).Inv where
  event := CondEvent.inv_start (k + 1)
  consumer := ⟨.idle, rfl, trivial, fun _ => rfl⟩
  producers := by
    intro i t _ hi
    have hmem := List.mem_of_getElem? hi
    rw [List.eq_of_mem_replicate hmem]
    trivial

variable {s s' : TaskThreads}

lemma Inv.withEvent (h : s.Inv) {event : CondEvent} (hinv : event.Inv)
    (hgoes : s.event.Goes event) : Inv { s with event } := by
  obtain ⟨t, ht, hwaits, hidle⟩ := h.consumer
  have hpos : 0 < event.threads.length := hgoes.1 ▸ (List.getElem?_eq_some_iff.mp ht).1
  refine ⟨hinv, ⟨event.threads[0], List.getElem?_eq_getElem hpos, ?_⟩, fun i u hi hu => ?_⟩
  · obtain ⟨t₀, ht₀, hgo⟩ := hgoes.2 0 _ (List.getElem?_eq_getElem hpos)
    cases ht.symm.trans ht₀
    refine ⟨hgo.waits hwaits, fun hc => ?_⟩
    rw [hidle hc] at hgo
    exact hgo.idle
  · obtain ⟨u₀, hu₀, hgo⟩ := hgoes.2 i u hu
    exact hgo.signalsOne (h.producers i u₀ hi hu₀)

lemma Inv.insertTask (h : s.Inv) {i : ℕ} (hi0 : i ≠ 0) {event : CondEvent}
    (hs : s.event.step (.signal i 1) = some event) (msg : String) :
    Inv { s with event, list := s.list ++ [msg], pushed := s.pushed ++ [msg] } := by
  have hevent := h.event.step hs
  obtain ⟨hi, rfl⟩ := CondEvent.step_signal hs
  obtain ⟨t, ht, hwaits, hidle⟩ := h.consumer
  refine ⟨hevent, ⟨t, ?_, hwaits, hidle⟩, fun j u hj hu => ?_⟩
  · exact (List.getElem?_set_ne hi0).trans ht
  · rcases Threads.getElem?_set_cases hu with ⟨_, rfl⟩ | ⟨_, hu⟩
    · rfl
    · exact h.producers j u hj hu

lemma Inv.wait (h : s.Inv) {event : CondEvent} (hs : s.event.step (.wait 0) = some event) :
    Inv { s with event, consumer := .wait } := by
  have hevent := h.event.step hs
  obtain ⟨h0, rfl⟩ := CondEvent.step_wait hs
  refine ⟨hevent, ⟨.lockToWait, ?_, trivial, fun hc => absurd rfl hc⟩, fun j u hj hu => ?_⟩
  · exact List.getElem?_set_self (List.getElem?_eq_some_iff.mp h0).1
  · rcases Threads.getElem?_set_cases hu with ⟨rfl, _⟩ | ⟨_, hu⟩
    · exact absurd rfl hj
    · exact h.producers j u hj hu

lemma Inv.outside (h : s.Inv) (h0 : s.event.threads[0]? = some .idle) (list taken : List String)
    (consumer : EraseTask) : Inv { s with list, taken, consumer } :=
  ⟨h.event, ⟨.idle, h0, trivial, fun _ => rfl⟩, h.producers⟩

lemma Inv.idle (h : s.Inv) (hc : s.consumer ≠ .wait) : s.event.threads[0]? = some .idle := by
  obtain ⟨t, ht, _, hidle⟩ := h.consumer
  exact hidle hc ▸ ht

/-- The steps of `erase_task` outside the event, one by one. -/
inductive EraseStep (s : TaskThreads) : TaskThreads → Prop
  | wait {event : CondEvent} (hc : s.consumer = .testEmpty) (hl : s.list = [])
    (hs : s.event.step (.wait 0) = some event) :
    EraseStep s { s with event, consumer := .wait }
  | pass (hc : s.consumer = .testEmpty) (hl : s.list ≠ []) :
    EraseStep s { s with consumer := .erase }
  | waited (hc : s.consumer = .wait) (h0 : s.event.threads[0]? = some .idle) :
    EraseStep s { s with consumer := .erase }
  | refuse (hc : s.consumer = .erase) (hl : s.list = []) :
    EraseStep s { s with consumer := .testEmpty }
  | erase {msg : String} {list : List String} (hc : s.consumer = .erase)
    (hl : s.list = msg :: list) :
    EraseStep s { s with list, taken := s.taken ++ [msg], consumer := .testEmpty }

lemma eraseTask_cases (hs : s.eraseTask = some s') : EraseStep s s' := by
  rw [TaskThreads.eraseTask] at hs
  cases hc : s.consumer with
  | testEmpty =>
    simp only [hc] at hs
    split_ifs at hs with hl
    · obtain ⟨event, he, rfl⟩ := Option.map_eq_some_iff.mp hs
      exact .wait hc (List.isEmpty_iff.mp hl) he
    · rw [← Option.some.inj hs]
      exact .pass hc fun h => hl (List.isEmpty_iff.mpr h)
  | wait =>
    simp only [hc] at hs
    split_ifs at hs with h0
    rw [← Option.some.inj hs]
    exact .waited hc h0
  | erase =>
    cases hl : s.list with
    | nil =>
      simp only [hc, hl, Option.some.injEq] at hs
      rw [← hs, ← hl]
      exact .refuse hc hl
    | cons msg list =>
      simp only [hc, hl, Option.some.injEq] at hs
      rw [← hs]
      exact .erase hc hl

lemma Inv.eraseTask (h : s.Inv) (hs : EraseStep s s') : s'.Inv := by
  cases hs with
  | wait _ _ hs => exact h.wait hs
  | pass hc => exact h.outside (h.idle (by simp [hc])) s.list s.taken .erase
  | waited _ h0 => exact h.outside h0 s.list s.taken .erase
  | refuse hc => exact h.outside (h.idle (by simp [hc])) s.list s.taken .testEmpty
  | erase hc => exact h.outside (h.idle (by simp [hc])) _ _ .testEmpty

lemma Inv.step {a : TaskThreadsAction} (h : s.Inv) (hs : s.step a = some s') : s'.Inv := by
  cases a with
  | insertTask i msg =>
    rw [TaskThreads.step] at hs
    split_ifs at hs with hi
    obtain ⟨event, he, rfl⟩ := Option.map_eq_some_iff.mp hs
    exact h.insertTask hi he msg
  | eraseTask => exact h.eraseTask (eraseTask_cases hs)
  | event i sleeper =>
    obtain ⟨event, he, rfl⟩ := Option.map_eq_some_iff.mp hs
    obtain ⟨t, hi, ha⟩ := CondEvent.step_advance he
    exact h.withEvent (h.event.step he) (ha.goes hi)
  | spurious i =>
    obtain ⟨event, he, rfl⟩ := Option.map_eq_some_iff.mp hs
    obtain ⟨hi, rfl⟩ := CondEvent.step_spurious he
    exact h.withEvent (h.event.step he) (CondEvent.goes_woken hi)

/-! ### The queue with the event at once -/

/-- Where `erase_task` is if its wait is over as soon as thread 0 has taken the unit. -/
def stage (consumer : EraseTask) (t : Option CondEvent.Thread) : EraseTask :=
  if consumer = .wait ∧ t.any CondEvent.Thread.passed then .erase else consumer

def abs (s : TaskThreads) : TaskQueue :=
  ⟨⟨s.list, s.event.count, s.event.owed, s.pushed, s.taken⟩, stage s.consumer s.event.threads[0]?⟩

lemma abs_start (k : ℕ) : (start k).abs = TaskQueue.start := by
  have howed : (start k).event.owed = 0 := by
    simp [CondEvent.owed, start, CondEvent.start, CondEvent.Thread.owes]
  rw [abs, howed]
  rfl

lemma stage_of_ne {consumer : EraseTask} {t : Option CondEvent.Thread} (hc : consumer ≠ .wait) :
    stage consumer t = consumer :=
  if_neg fun h => hc h.1

lemma abs_insertTask {i : ℕ} (hi0 : i ≠ 0) {event : CondEvent}
    (hs : s.event.step (.signal i 1) = some event) (msg : String) :
    TaskQueue.step s.abs (.insertTask msg) =
      some (abs { s with event, list := s.list ++ [msg], pushed := s.pushed ++ [msg] }) := by
  obtain ⟨hi, rfl⟩ := CondEvent.step_signal hs
  have howed : (s.event.move i (.lockToSignal 1)).owed = s.event.owed + 1 :=
    CondEvent.owed_move hi (.lockToSignal 1)
  have h0 : (s.event.move i (.lockToSignal 1)).threads[0]? = s.event.threads[0]? :=
    List.getElem?_set_ne hi0
  simp only [abs, howed, h0]
  rfl

lemma wait_called {event : CondEvent} (hs : s.event.step (.wait 0) = some event) :
    event.threads[0]? = some .lockToWait ∧ event.count = s.event.count ∧
      event.owed = s.event.owed ∧ event.left = s.event.left + 4 := by
  obtain ⟨h0, rfl⟩ := CondEvent.step_wait hs
  refine ⟨List.getElem?_set_self (List.getElem?_eq_some_iff.mp h0).1, rfl, ?_, ?_⟩
  · exact CondEvent.owed_move h0 .lockToWait
  · exact CondEvent.left_move h0 .lockToWait

/-- Each step of `erase_task` outside the event is one of the queue, but the return of `wait`. -/
lemma abs_eraseTask (hs : EraseStep s s') :
    s'.abs = s.abs ∨ TaskQueue.step s.abs .eraseTask = some s'.abs := by
  cases hs with
  | wait hc hl hs =>
    obtain ⟨hself, hcount, howed, _⟩ := wait_called hs
    right
    simp only [abs, howed, hcount, hself, hc, hl]
    rfl
  | pass hc hl =>
    obtain ⟨msg, list, hl⟩ := List.exists_cons_of_ne_nil hl
    right
    simp only [abs, hc, hl]
    rfl
  | waited hc h0 =>
    -- the call of `wait` has returned, which took its token before
    left
    simp only [abs, hc, h0]
    rfl
  | refuse hc hl =>
    right
    simp only [abs, hc, hl]
    rfl
  | erase hc hl =>
    right
    simp only [abs, hc, hl]
    rfl

lemma Inv.eq_zero (h : s.Inv) {i : ℕ} (hi : s.event.threads[i]? = some .take) : i = 0 := by
  by_contra hne
  exact h.producers i .take hne hi

lemma Inv.eq_one (h : s.Inv) {i n : ℕ} (hi : s.event.threads[i]? = some (.add n)) : n = 1 := by
  by_cases hi0 : i = 0
  · subst hi0
    obtain ⟨t, ht, hwaits, _⟩ := h.consumer
    cases ht.symm.trans hi
    exact hwaits.elim
  · exact h.producers i (.add n) hi0 hi

variable {i : ℕ} {t : CondEvent.Thread} {event : CondEvent}

lemma Inv.stage_eq (h : s.Inv) (hi : s.event.threads[i]? = some t) (ha : s.event.Advance i t event)
    (hne : t ≠ .take) :
    stage s.consumer event.threads[0]? = stage s.consumer s.event.threads[0]? := by
  obtain ⟨t₀, ht₀, hwaits, _⟩ := h.consumer
  have hpos : 0 < event.threads.length := ha.length ▸ (List.getElem?_eq_some_iff.mp ht₀).1
  have hpassed : event.threads[0].passed = t₀.passed := by
    rcases ha.moves (List.getElem?_eq_getElem hpos) with ⟨rfl, hm⟩ | ⟨_, u₀, hu₀, haside⟩
    · cases ht₀.symm.trans hi
      exact hm.passed hwaits hne
    · cases ht₀.symm.trans hu₀
      exact haside.passed
  rw [List.getElem?_eq_getElem hpos, ht₀, stage, stage, Option.any_some, Option.any_some, hpassed]

lemma Inv.abs_take (h : s.Inv) (hi : s.event.threads[i]? = some .take)
    (ha : s.event.Advance i .take event) (hcount : event.count = s.event.count - 1)
    (howed : event.owed = s.event.owed) :
    TaskQueue.step s.abs .eraseTask = some (abs { s with event }) := by
  -- only the consumer takes tokens
  obtain rfl := h.eq_zero hi
  have hpos := h.event.take (List.mem_of_getElem? hi)
  have hc : s.consumer = .wait := by
    by_contra hc
    exact nomatch hi.symm.trans (h.idle hc)
  obtain ⟨t', h0, hm⟩ := ha.self hi
  rw [hm.of_take] at h0
  simp only [abs, hc, hi, h0, hcount, howed]
  show Option.map _ _ = _
  rw [EventQueue.wait, if_neg hpos.ne']
  rfl

/-- A step in the event adds the unit of a `signal`, takes that of the `wait`, or changes nothing
for the queue. -/
lemma Inv.abs_event (h : s.Inv) (hi : s.event.threads[i]? = some t)
    (ha : s.event.Advance i t event) :
    abs { s with event } = s.abs ∨ ∃ a, TaskQueue.step s.abs a = some (abs { s with event }) := by
  have hgoes := ha.goes hi
  cases ha.effect hi with
  | @add n hcount howed =>
    obtain rfl : n = 1 := h.eq_one hi
    refine .inr ⟨.signal, ?_⟩
    simp only [abs, h.stage_eq hi ha nofun, hcount, ← howed]
    rfl
  | take hcount howed => exact .inr ⟨.eraseTask, h.abs_take hi ha hcount howed⟩
  | none hadd htake hcount howed =>
    left
    simp only [abs, h.stage_eq hi ha htake, hcount, howed]

/-- A sleeper that wakes changes nothing for the queue. -/
lemma abs_woken (hi : s.event.threads[i]? = some .asleep) :
    abs { s with event := s.event.move i .woken } = s.abs := by
  have howed : (s.event.move i .woken).owed = s.event.owed := CondEvent.owed_move hi .woken
  have hstage : stage s.consumer (s.event.threads.set i .woken)[0]? =
      stage s.consumer s.event.threads[0]? := by
    by_cases hi0 : i = 0
    · subst hi0
      rw [List.getElem?_set_self (List.getElem?_eq_some_iff.mp hi).1, hi]
      rfl
    · rw [List.getElem?_set_ne hi0]
  simp only [abs, howed]
  rw [← hstage]
  rfl

lemma Inv.abs_step {a : TaskThreadsAction} (h : s.Inv) (hs : s.step a = some s') :
    s'.abs = s.abs ∨ ∃ a, TaskQueue.step s.abs a = some s'.abs := by
  cases a with
  | insertTask i msg =>
    rw [TaskThreads.step] at hs
    split_ifs at hs with hi
    obtain ⟨event, he, rfl⟩ := Option.map_eq_some_iff.mp hs
    exact .inr ⟨_, abs_insertTask hi he msg⟩
  | eraseTask => exact (abs_eraseTask (eraseTask_cases hs)).imp_right fun h => ⟨_, h⟩
  | event i sleeper =>
    obtain ⟨event, he, rfl⟩ := Option.map_eq_some_iff.mp hs
    obtain ⟨t, hi, ha⟩ := CondEvent.step_advance he
    exact h.abs_event hi ha
  | spurious i =>
    obtain ⟨event, he, rfl⟩ := Option.map_eq_some_iff.mp hs
    obtain ⟨hi, rfl⟩ := CondEvent.step_spurious he
    exact .inl (abs_woken hi)

/-- What the threads do with the event's mutex and condition variable, the queue does with a count
that changes at once. -/
lemma exists_run_abs {k : ℕ} {as : List TaskThreadsAction}
    (hrun : Run.run step (start k) as = some s) :
    ∃ bs, Run.run TaskQueue.step TaskQueue.start bs = some s.abs := by
  obtain ⟨bs, hbs⟩ := Run.exists_run_of_abstraction (f := abs)
    (fun s a s' (h : s.Inv) hs => ⟨h.step hs, h.abs_step hs⟩) (inv_start k) hrun
  rw [abs_start] at hbs
  exact ⟨bs, hbs⟩

lemma inv_of_run {k : ℕ} {as : List TaskThreadsAction}
    (hrun : Run.run step (start k) as = some s) : s.Inv :=
  Run.reachable_invariant (fun _ _ _ h hs => h.step hs) (inv_start k) hrun

/-! ### The threads at rest -/

/-- No thread has a step to make: thread 0 sleeps in `wait`, and the others are in no call or
asleep. -/
structure Resting (s : TaskThreads) : Prop where
  event : s.event.Resting
  asleep : s.event.threads[0]? = some .asleep

/-- At rest nothing is left in the list. -/
lemma Inv.list_eq_nil (h : s.Inv) (habs : s.abs.Inv) (hrest : s.Resting) : s.list = [] := by
  have hcount : s.event.count = 0 :=
    h.event.count_eq_zero hrest.event (List.mem_of_getElem? hrest.asleep)
  have howed : s.event.owed = 0 := hrest.event.sum_eq_zero rfl rfl
  have hc : s.consumer = .wait := by
    by_contra hc
    exact nomatch hrest.asleep.symm.trans (h.idle hc)
  have hstage : s.abs.consumer = .wait := by
    show stage s.consumer s.event.threads[0]? = .wait
    rw [hc, hrest.asleep]
    rfl
  exact (habs.covered hstage).list_eq_nil hcount howed

lemma exists_eraseTask (h0 : s.event.threads[0]? = some .idle) : ∃ s', s.eraseTask = some s' := by
  rw [TaskThreads.eraseTask]
  cases s.consumer with
  | testEmpty =>
    cases s.list with
    | nil =>
      refine ⟨{ s with event := s.event.move 0 .lockToWait, list := [], consumer := .wait }, ?_⟩
      simp [CondEvent.step, h0]
    | cons msg list => exact ⟨{ s with list := msg :: list, consumer := .erase }, rfl⟩
  | wait => exact ⟨_, if_pos h0⟩
  | erase =>
    cases s.list with
    | nil => exact ⟨_, rfl⟩
    | cons msg list => exact ⟨_, rfl⟩

lemma Inv.exists_step (h : s.Inv) (hrest : ¬ s.Resting) :
    ∃ a s', a.Own ∧ s.step a = some s' := by
  by_cases hevent : s.event.Resting
  · obtain ⟨t, ht, _⟩ := h.consumer
    rcases hevent t (List.mem_of_getElem? ht) with rfl | rfl
    · obtain ⟨s', hs⟩ := exists_eraseTask ht
      exact ⟨.eraseTask, s', trivial, hs⟩
    · exact absurd ⟨hevent, ht⟩ hrest
  · obtain ⟨i, j, event, he⟩ := h.event.exists_advance hevent
    exact ⟨.event i j, { s with event }, trivial, by rw [TaskThreads.step, he, Option.map_some]⟩

/-- What `erase_task` may yet do outside the event with the messages that are there. -/
def stageLeft (list : List String) : EraseTask → ℕ
  | .testEmpty => if list = [] then 6 else 3
  | .wait => 0
  | .erase => if list = [] then 7 else 2

def left (s : TaskThreads) : ℕ :=
  s.event.left + 8 * (s.list.length + s.event.count + s.event.owed) +
    stageLeft s.list s.abs.consumer + (if s.consumer = .wait then 1 else 0)

lemma stageLeft_le (list : List String) (consumer : EraseTask) : stageLeft list consumer ≤ 7 := by
  rw [stageLeft.eq_def]
  split <;> (try split_ifs) <;> decide

lemma left_eraseTask (hs : EraseStep s s') : s'.left < s.left := by
  cases hs with
  | wait hc hl hs =>
    obtain ⟨hself, hcount, howed, hleft⟩ := wait_called hs
    simp [left, abs, howed, hleft, hself, hcount, hc, hl, stageLeft, stage,
      CondEvent.Thread.passed]
    omega
  | pass hc hl => simp [left, abs, hc, hl, stageLeft, stage]
  | waited hc h0 => simp [left, abs, hc, h0, stage, CondEvent.Thread.passed]
  | refuse hc hl => simp [left, abs, hc, hl, stageLeft, stage]
  | @erase msg list hc hl =>
    have hle := stageLeft_le list .testEmpty
    simp only [left, abs, hc, hl, stage_of_ne, ne_eq, reduceCtorEq, not_false_eq_true, if_false,
      List.length_cons]
    omega

lemma Inv.left_event (h : s.Inv) (hi : s.event.threads[i]? = some t)
    (ha : s.event.Advance i t event) : left { s with event } < s.left := by
  have hlt := ha.left_lt hi
  cases ha.effect hi with
  | @add n hcount howed =>
    have hstage := h.stage_eq hi ha nofun
    simp only [left, abs, hstage, hcount]
    omega
  -- the consumer has one more round before it, for which the token pays
  | take hcount howed =>
    have hpos := h.event.take (List.mem_of_getElem? hi)
    have hle := stageLeft_le s.list (stage s.consumer event.threads[0]?)
    simp only [left, abs, hcount, howed]
    omega
  | none hadd htake hcount howed =>
    have hstage := h.stage_eq hi ha htake
    simp only [left, abs, hstage, hcount, howed]
    omega

lemma Inv.left_step {a : TaskThreadsAction} (h : s.Inv) (ha : a.Own) (hs : s.step a = some s') :
    s'.left < s.left := by
  cases a with
  | insertTask | spurious => exact ha.elim
  | eraseTask => exact left_eraseTask (eraseTask_cases hs)
  | event i sleeper =>
    obtain ⟨event, he, rfl⟩ := Option.map_eq_some_iff.mp hs
    obtain ⟨t, hi, ha⟩ := CondEvent.step_advance he
    exact h.left_event hi ha

end TaskThreads

/-- In every state that any number of callers of `insert_task` and the caller of `erase_task` reach
by their steps in the mutex and the condition variable of the event, woken for no reason included:
the queue is one that the steps of `TaskQueue` reach, and what was taken is what was inserted, in
order, up to what the list still has. If no message comes and nobody wakes for no reason, the
threads make no more than a bounded number of steps, one of them has a step as long as they are not
at rest, and at rest, with the caller of `erase_task` asleep, the list is empty. -/
theorem msg_event_wakes {k : ℕ} {as : List TaskThreadsAction} {s : TaskThreads}
    (hrun : Run.run TaskThreads.step (TaskThreads.start k) as = some s) :
    (∃ bs, Run.run TaskQueue.step TaskQueue.start bs = some s.abs) ∧
    s.pushed = s.taken ++ s.list ∧
    (∀ bs t, (∀ b ∈ bs, b.Own) → Run.run TaskThreads.step s bs = some t → bs.length ≤ s.left) ∧
    (¬ s.Resting → ∃ a s', a.Own ∧ s.step a = some s') ∧
    (s.Resting → s.list = []) := by
  have h := TaskThreads.inv_of_run hrun
  obtain ⟨bs, hbs⟩ := TaskThreads.exists_run_abs hrun
  have habs := TaskQueue.inv_of_run hbs
  refine ⟨⟨bs, hbs⟩, habs.inOrder, fun cs t hown hcs => ?_, h.exists_step, h.list_eq_nil habs⟩
  have hmeets : Run.Meets TaskThreads.step (fun _ a => a.Own) s cs :=
    Run.meets_of_forall (fun a ha _ => hown a ha) s
  have hle := Run.length_le_of_decreasing
    (fun s a s' (h : s.Inv) ha hs => ⟨h.step hs, h.left_step ha hs⟩) h hmeets hcs
  omega

/-- A message comes in while thread 0 is on its way to sleep; its `signal` has to wait for the
mutex, finds the thread asleep and wakes it. -/
def wakeUp : List TaskThreadsAction :=
  [.eraseTask, .event 0 0, .insertTask 1 "a", .event 0 0, .event 1 0, .event 1 0, .event 1 0,
    .event 1 0, .event 0 0, .event 0 0, .event 0 0, .event 0 0, .eraseTask, .eraseTask,
    .eraseTask, .event 0 0, .event 0 0]

theorem msg_event_wakes_one :
    ∃ s, Run.run TaskThreads.step (TaskThreads.start 1) wakeUp = some s ∧ s.taken = ["a"] ∧
      s.list = [] := by
  have hrun : Run.run TaskThreads.step (TaskThreads.start 1) wakeUp = some _ := rfl
  have hasleep : ∀ t ∈ [CondEvent.Thread.asleep, .idle], t = .idle ∨ t = .asleep := by decide
  exact ⟨_, hrun, rfl, (msg_event_wakes hrun).2.2.2.2 ⟨hasleep, rfl⟩⟩

end DHGateway
