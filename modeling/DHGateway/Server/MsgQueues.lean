import DHGateway.Core.EventQueue
import DHGateway.Core.Run

/-!
# The message queues

The queue of received messages (`insert_task`, `erase_task`) and the queue of messages to send
(`send_business_queueEx`, `sent_business_func`), step by step: the unlocked tests, the event's
`signal` and `wait`, and the locked list operations.
-/

namespace DHGateway

/-! ### Received messages -/

/-- Where the loop over `erase_task` is. -/
inductive EraseTask where
  | testEmpty
  | wait
  | erase
  deriving DecidableEq

/-- `_msg_list` with `_msg_ev`, and its consumer. -/
structure TaskQueue where
  queue : EventQueue String
  consumer : EraseTask

/-- A step of one of the callers of `insert_task`, or of the consumer. -/
inductive TaskAction where
  | insertTask (msg : String)
  | signal
  | eraseTask

namespace TaskQueue

def start : TaskQueue := ⟨.new, .testEmpty⟩

/-- The next step of `erase_task`; after it returned it is called again. -/
def eraseTask (s : TaskQueue) : Option TaskQueue :=
  match s.consumer with
  | .testEmpty => some { s with consumer := if s.queue.list.isEmpty then .wait else .erase }
  | .wait => s.queue.wait.map fun q => ⟨q, .erase⟩
  | .erase => some ⟨s.queue.take.getD s.queue, .testEmpty⟩

def step (s : TaskQueue) : TaskAction → Option TaskQueue
  | .insertTask msg => some { s with queue := s.queue.push msg }
  | .signal => s.queue.signal.map fun q => { s with queue := q }
  | .eraseTask => s.eraseTask

/-- The invariant: a consumer that is about to wait saw the list empty. -/
structure Inv (s : TaskQueue) : Prop where
  inOrder : s.queue.InOrder
  covered : s.consumer = .wait → s.queue.Covered

lemma inv_start : start.Inv :=
  ⟨EventQueue.inOrder_new, nofun⟩

lemma Inv.eraseTask {s s' : TaskQueue} (h : s.Inv) (hs : s.eraseTask = some s') : s'.Inv := by
  rw [TaskQueue.eraseTask] at hs
  cases hpc : s.consumer with
  | testEmpty =>
    simp only [hpc, Option.some.injEq] at hs
    rw [← hs]
    refine ⟨h.inOrder, fun hwait => ?_⟩
    -- the consumer goes to the event only when the test without the mutex found nothing
    apply EventQueue.covered_of_nil
    by_contra hne
    rw [← List.isEmpty_iff] at hne
    simp [hne] at hwait
  | wait =>
    simp only [hpc, Option.map_eq_some_iff] at hs
    obtain ⟨q, hq, rfl⟩ := hs
    exact ⟨h.inOrder.wait hq, nofun⟩
  | erase =>
    simp only [hpc, Option.some.injEq] at hs
    rw [← hs]
    refine ⟨?_, nofun⟩
    show (s.queue.take.getD s.queue).InOrder
    cases hq : s.queue.take with
    | none => exact h.inOrder
    | some q => exact h.inOrder.take hq

lemma Inv.step {s s' : TaskQueue} {a : TaskAction} (h : s.Inv) (hs : s.step a = some s') :
    s'.Inv := by
  cases a with
  | insertTask msg =>
    rw [← Option.some.inj hs]
    exact ⟨h.inOrder.push msg, fun hpc => (h.covered hpc).push msg⟩
  | signal =>
    obtain ⟨q, hq, rfl⟩ := Option.map_eq_some_iff.mp hs
    exact ⟨h.inOrder.signal hq, fun hpc => (h.covered hpc).signal hq⟩
  | eraseTask => exact h.eraseTask hs

lemma inv_of_run {as : List TaskAction} {s : TaskQueue}
    (hrun : Run.run step start as = some s) : s.Inv :=
  Run.reachable_invariant (fun _ _ _ h hs => h.step hs) inv_start hrun

end TaskQueue

/-! ### Messages to send -/

/-- Where `sent_business_func` is. -/
inductive SentBusiness where
  | testEmpty
  | wait
  | testNotEmpty
  | take
  | send
  deriving DecidableEq

/-- `_business_msg_list` with `_business_msg_list_ev`, whether a caller of `send_business_queueEx`
or the consumer holds `_business_msg_list_mtx`, the consumer, and whether it read behind the end
of the list. -/
structure BusinessQueue where
  queue : EventQueue String
  senderLocked : Bool
  consumerLocked : Bool
  consumer : SentBusiness
  overrun : Bool

/-- A step of one of the callers of `send_business_queueEx`, or of the consumer. -/
inductive SendAction where
  | pushBack (msg : String)
  | signal
  | sentBusiness

namespace BusinessQueue

def start : BusinessQueue := ⟨.new, false, false, .testEmpty, false⟩

/-- `_business_msg_list_mtx` is free. -/
def Free (s : BusinessQueue) : Prop :=
  s.senderLocked = false ∧ s.consumerLocked = false

instance (s : BusinessQueue) : Decidable s.Free := by unfold Free; infer_instance

/-- The next step of `sent_business_func`; it sends with the mutex held. -/
def sentBusiness (s : BusinessQueue) : Option BusinessQueue :=
  match s.consumer with
  | .testEmpty =>
    some { s with consumer := if s.queue.list.isEmpty then .wait else .testNotEmpty }
  | .wait => s.queue.wait.map fun q => { s with queue := q, consumer := .testEmpty }
  | .testNotEmpty =>
    some { s with consumer := if s.queue.list.isEmpty then .testEmpty else .take }
  | .take =>
    if s.Free then
      match s.queue.take with
      | some q => some { s with queue := q, consumerLocked := true, consumer := .send }
      -- `front` and `pop_front` of an empty list
      | none => some { s with overrun := true, consumerLocked := true, consumer := .send }
    else none
  | .send => some { s with consumerLocked := false, consumer := .testEmpty }

def step (s : BusinessQueue) : SendAction → Option BusinessQueue
  | .pushBack msg =>
    if s.Free then some { s with queue := s.queue.push msg, senderLocked := true } else none
  | .signal => s.queue.signal.map fun q => { s with queue := q, senderLocked := false }
  | .sentBusiness => s.sentBusiness

/-- The invariant: a consumer that is about to wait saw the list empty, and one that is about to
take saw an entry. -/
structure Inv (s : BusinessQueue) : Prop where
  inOrder : s.queue.InOrder
  covered : s.consumer = .wait → s.queue.Covered
  notEmpty : s.consumer = .take → s.queue.list ≠ []
  overrun : s.overrun = false

lemma inv_start : start.Inv :=
  ⟨EventQueue.inOrder_new, nofun, nofun, rfl⟩

lemma Inv.sentBusiness {s s' : BusinessQueue} (h : s.Inv) (hs : s.sentBusiness = some s') :
    s'.Inv := by
  rw [BusinessQueue.sentBusiness] at hs
  cases hpc : s.consumer with
  | testEmpty =>
    simp only [hpc, Option.some.injEq] at hs
    rw [← hs]
    cases hl : s.queue.list with
    | nil => exact ⟨h.inOrder, fun _ => EventQueue.covered_of_nil hl, nofun, h.overrun⟩
    | cons msg l => exact ⟨h.inOrder, nofun, nofun, h.overrun⟩
  | wait =>
    simp only [hpc, Option.map_eq_some_iff] at hs
    obtain ⟨q, hq, rfl⟩ := hs
    exact ⟨h.inOrder.wait hq, nofun, nofun, h.overrun⟩
  | testNotEmpty =>
    simp only [hpc, Option.some.injEq] at hs
    rw [← hs]
    cases hl : s.queue.list with
    | nil => exact ⟨h.inOrder, nofun, nofun, h.overrun⟩
    | cons msg l =>
      refine ⟨h.inOrder, nofun, fun _ => ?_, h.overrun⟩
      show s.queue.list ≠ []
      rw [hl]
      exact List.cons_ne_nil msg l
  | take =>
    simp only [hpc] at hs
    split_ifs at hs
    -- only this thread takes from the list, so what the test saw is still there
    have hne := h.notEmpty hpc
    cases hq : s.queue.take with
    | none => exact absurd (EventQueue.list_of_take_eq_none hq) hne
    | some q =>
      simp only [hq, Option.some.injEq] at hs
      rw [← hs]
      exact ⟨h.inOrder.take hq, nofun, nofun, h.overrun⟩
  | send =>
    simp only [hpc, Option.some.injEq] at hs
    rw [← hs]
    exact ⟨h.inOrder, nofun, nofun, h.overrun⟩

lemma Inv.step {s s' : BusinessQueue} {a : SendAction} (h : s.Inv)
    (hs : s.step a = some s') : s'.Inv := by
  cases a with
  | pushBack msg =>
    simp only [BusinessQueue.step] at hs
    split_ifs at hs
    rw [← Option.some.inj hs]
    exact ⟨h.inOrder.push msg, fun hpc => (h.covered hpc).push msg,
      fun _ => EventQueue.push_list_ne_nil msg, h.overrun⟩
  | signal =>
    obtain ⟨q, hq, rfl⟩ := Option.map_eq_some_iff.mp hs
    refine ⟨h.inOrder.signal hq, fun hpc => (h.covered hpc).signal hq, fun hpc => ?_, h.overrun⟩
    show q.list ≠ []
    rw [EventQueue.signal_list hq]
    exact h.notEmpty hpc
  | sentBusiness => exact h.sentBusiness hs

lemma inv_of_run {as : List SendAction} {s : BusinessQueue}
    (hrun : Run.run step start as = some s) : s.Inv :=
  Run.reachable_invariant (fun _ _ _ h hs => h.step hs) inv_start hrun

end BusinessQueue

/-- In every state of every run of either queue: what was taken is what was inserted first, in
order, and nothing is lost; the list is not read behind its end; and when the consumer waits
with no signal left, nor one to come, then nothing is left in the list. -/
theorem dequeue_loses_nothing :
    (∀ as s, Run.run TaskQueue.step TaskQueue.start as = some s →
      s.queue.pushed = s.queue.taken ++ s.queue.list ∧
      (s.consumer = .wait → s.queue.count = 0 → s.queue.signalling = 0 → s.queue.list = [])) ∧
    (∀ as s, Run.run BusinessQueue.step BusinessQueue.start as = some s →
      s.queue.pushed = s.queue.taken ++ s.queue.list ∧ s.overrun = false ∧
      (s.consumer = .wait → s.queue.count = 0 → s.queue.signalling = 0 →
        s.queue.list = [])) := by
  constructor
  · intro as s hrun
    have h := TaskQueue.inv_of_run hrun
    exact ⟨h.inOrder, fun hpc => (h.covered hpc).list_eq_nil⟩
  · intro as s hrun
    have h := BusinessQueue.inv_of_run hrun
    exact ⟨h.inOrder, h.overrun, fun hpc => (h.covered hpc).list_eq_nil⟩

/-- Two messages are taken before the consumer looks at their signals. -/
theorem dequeue_loses_nothing_two :
    ∃ s, Run.run TaskQueue.step TaskQueue.start [.insertTask "a", .eraseTask, .insertTask "b",
        .eraseTask, .signal, .eraseTask, .eraseTask, .signal, .eraseTask] = some s ∧
      s.queue.count = 2 ∧ s.queue.taken = ["a", "b"] ∧
      s.queue.pushed = s.queue.taken ++ s.queue.list := by
  have hrun : Run.run TaskQueue.step TaskQueue.start [.insertTask "a", .eraseTask,
      .insertTask "b", .eraseTask, .signal, .eraseTask, .eraseTask, .signal, .eraseTask] =
      some ⟨⟨[], 2, 0, ["a", "b"], ["a", "b"]⟩, .wait⟩ := rfl
  exact ⟨_, hrun, rfl, rfl, (dequeue_loses_nothing.1 _ _ hrun).1⟩

end DHGateway
