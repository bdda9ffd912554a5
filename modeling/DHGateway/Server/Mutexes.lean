import DHGateway.Core.LockOrder

/-!
# The mutexes of the gateway

What each function locks, and what it does under the lock. Three functions keep one of the mutexes
while they signal an event, and more while they write to the log; none waits for an event under a
lock.
-/

namespace DHGateway

open LockOp

/-- The mutexes; those of the events are named after the events. -/
inductive Mutex where
  | msgMux
  | msgEv
  | platformMapMux
  | loginLock
  | sessionMapLock
  | businessMsgListMtx
  | businessMsgListEv
  | disconnetEv
  | publicEv
  | businessEv
  | taskQueue
  | semaphore
  | mediaConfigMapMtx
  | logMtx
  deriving DecidableEq

def Mutex.rank : Mutex → ℕ
  | .msgMux | .platformMapMux | .loginLock | .sessionMapLock | .businessMsgListMtx | .taskQueue
  | .mediaConfigMapMtx => 0
  | .msgEv | .businessMsgListEv | .disconnetEv | .publicEv | .businessEv | .semaphore => 1
  | .logMtx => 2

/-- `event_condition_variable::wait` or `semaphore::wait`, where the thread sleeps so many times. -/
def waitEvent (event : Mutex) : ℕ → List (LockOp Mutex)
  | 0 => brief event
  | sleeps + 1 => brief event ++ .sleep :: waitEvent event sleeps

/-- `write_log`, so many times. -/
def writeLog (logs : ℕ) : List (LockOp Mutex) :=
  (List.replicate logs Mutex.logMtx).flatMap brief

/-- The functions that lock something, with how often they sleep and write to the log there. -/
inductive LockingCall where
  | writeLog
  /-- `server_manage::insert_task` -/
  | insertTask
  /-- `server_manage::erase_task`, which waits if it finds no message -/
  | eraseTask (sleeps : Option ℕ)
  | getPlatform
  | addPlatform (logs : ℕ)
  | delPlatform (logs : ℕ)
  /-- `EquipmentMgr::Login` -/
  | login (logs : ℕ)
  | getPlaySession
  | insertPlaySession
  /-- `DelPlaySession` and `DisconnetPlaySession` may destroy sessions. -/
  | delPlaySession (logs : ℕ)
  | disconnetPlaySession (logs : ℕ)
  | getPlaySessionCount
  | sendBusinessQueueEx
  /-- the branches of `client_manage::sent_business_func`; `send_business_queue` writes to the log
  and signals `_disconnet_ev` -/
  | sentBusinessWait (sleeps : ℕ)
  | sentBusinessSend (inner : List Bool)
  | disconnetFunc (sleeps : ℕ)
  /-- the signals of `start_public_queue` and `start_business_queue` -/
  | startPublicQueue
  | startBusinessQueue
  | waitPublic (sleeps : ℕ)
  | waitBusiness (sleeps : ℕ)
  /-- `task_queue::push_task` and `push_task_first` -/
  | pushTask
  | pushExit
  | getTask (sleeps : ℕ)
  | size
  | addMediaConfig (logs : ℕ)
  | getMediaConfig

def LockingCall.ops : LockingCall → List (LockOp Mutex)
  | .writeLog => DHGateway.writeLog 1
  | .insertTask => locked .msgMux [] ++ brief .msgEv
  -- `empty` is tested without the mutex, and only an empty list is waited for
  | .eraseTask none => locked .msgMux []
  | .eraseTask (some sleeps) => waitEvent .msgEv sleeps ++ locked .msgMux []
  | .getPlatform => locked .platformMapMux []
  | .addPlatform logs | .delPlatform logs => locked .platformMapMux (DHGateway.writeLog logs)
  | .login logs => locked .loginLock (DHGateway.writeLog logs)
  | .getPlaySession | .insertPlaySession | .getPlaySessionCount => locked .sessionMapLock []
  | .delPlaySession logs | .disconnetPlaySession logs =>
    locked .sessionMapLock (DHGateway.writeLog logs)
  | .sendBusinessQueueEx => locked .businessMsgListMtx (brief .businessMsgListEv)
  | .sentBusinessWait sleeps => waitEvent .businessMsgListEv sleeps
  -- `send_business_queue` runs with the mutex held, and signals and writes the log in it
  | .sentBusinessSend inner =>
    locked .businessMsgListMtx
      (inner.flatMap fun signal => brief (if signal then .disconnetEv else .logMtx))
  | .disconnetFunc sleeps => waitEvent .disconnetEv sleeps
  | .startPublicQueue => brief .publicEv
  | .startBusinessQueue => brief .businessEv
  | .waitPublic sleeps => waitEvent .publicEv sleeps
  | .waitBusiness sleeps => waitEvent .businessEv sleeps
  | .pushTask => locked .taskQueue [] ++ brief .semaphore
  | .pushExit => brief .semaphore
  | .getTask sleeps => waitEvent .semaphore sleeps ++ locked .taskQueue []
  | .size => locked .taskQueue []
  | .addMediaConfig logs => locked .mediaConfigMapMtx (DHGateway.writeLog logs)
  | .getMediaConfig => locked .mediaConfigMapMtx []

/-! ### The order -/

section

variable {held : List Mutex} {m : Mutex}

lemma keeps_writeLog (h : ∀ l ∈ held, l.rank < 2) (logs : ℕ) :
    Keeps Mutex.rank held (writeLog logs) := by
  refine keeps_flatMap fun l hl => ?_
  rw [List.eq_of_mem_replicate hl]
  exact keeps_brief h

lemma keeps_waitEvent (event : Mutex) (sleeps : ℕ) :
    Keeps Mutex.rank [] (waitEvent event sleeps) := by
  have hfirst : Keeps Mutex.rank [] (brief event) := keeps_brief (by simp)
  induction sleeps with
  | zero => exact hfirst
  | succ sleeps ih => exact keeps_append hfirst (keeps_sleep ih)

lemma keeps_locked_nil (m : Mutex) : Keeps Mutex.rank [] (locked m []) :=
  keeps_locked (by simp) keeps_nil

lemma keeps_locked_writeLog (hm : m.rank < 2) (logs : ℕ) :
    Keeps Mutex.rank [] (locked m (writeLog logs)) :=
  keeps_locked (by simp) (keeps_writeLog (by simpa using hm) logs)

end

/-- Each function takes the mutexes in their order, and sleeps and returns without any. -/
lemma LockingCall.inOrder (c : LockingCall) : InOrder Mutex.rank [] c.ops := by
  have hbrief : ∀ m, Keeps Mutex.rank [] (brief m) := fun m => keeps_brief (by simp)
  cases c with
  | writeLog => exact keeps_writeLog (by simp) 1
  | insertTask => exact keeps_append (keeps_locked_nil _) (hbrief _)
  | eraseTask sleeps =>
    cases sleeps with
    | none => exact keeps_locked_nil _
    | some sleeps => exact keeps_append (keeps_waitEvent _ _) (keeps_locked_nil _)
  | getPlatform | getPlaySession | insertPlaySession | getPlaySessionCount | size
  | getMediaConfig => exact keeps_locked_nil _
  | addPlatform logs | delPlatform logs | login logs | delPlaySession logs
  | disconnetPlaySession logs | addMediaConfig logs =>
    exact keeps_locked_writeLog (by decide) logs
  | sendBusinessQueueEx => exact keeps_locked (by simp) (keeps_brief (by decide))
  | sentBusinessSend inner =>
    refine keeps_locked (by simp) (keeps_flatMap fun signal _ => keeps_brief ?_)
    cases signal <;> decide
  | sentBusinessWait | disconnetFunc | waitPublic | waitBusiness => exact keeps_waitEvent _ _
  | startPublicQueue | startBusinessQueue | pushExit => exact hbrief _
  | pushTask => exact keeps_append (keeps_locked_nil _) (hbrief _)
  | getTask sleeps => exact keeps_append (keeps_waitEvent _ _) (keeps_locked_nil _)

/-- In every interleaving of any number of threads in these functions, what they do by themselves
comes to an end, and one of them can go on unless each has returned or sleeps in the `wait` of an
event; then no mutex is locked. The calls of libraries under a mutex (the login, the files of the
registry and of the log) are taken to return, and not to call back into the gateway. -/
theorem mutexes_never_block {n : ℕ} {as : List (LockAction LockingCall)} {s : Locks Mutex}
    (hrun : Run.run (Locks.step LockingCall.ops) (Locks.start n) as = some s) :
    (∀ bs t, (∀ b ∈ bs, b.Own) → Run.run (Locks.step LockingCall.ops) s bs = some t →
        bs.length ≤ s.left) ∧
      ((∃ i s', s.step LockingCall.ops (.advance i) = some s') ∨
        (∀ t ∈ s.threads, t.Resting) ∧ ∀ m, s.Free m) := by
  obtain ⟨hbound, hgo⟩ := Locks.never_block LockingCall.inOrder hrun
  refine ⟨hbound, hgo.imp_right fun hrest => ⟨hrest, fun m t ht => ?_⟩⟩
  rw [(hrest t ht).1]
  exact List.not_mem_nil

/-- A push has the mutex of the list, for which `sent_business_func` waits. -/
def pushWhileSending : List (LockAction LockingCall) :=
  [.call 0 .sendBusinessQueueEx, .call 1 (.sentBusinessSend [true]), .advance 0, .advance 0]

theorem mutexes_never_block_two : ∃ s,
    Run.run (Locks.step LockingCall.ops) (Locks.start 2) pushWhileSending = some s ∧
      s.step LockingCall.ops (.advance 1) = none ∧
      ((∃ i s', s.step LockingCall.ops (.advance i) = some s') ∨
        (∀ t ∈ s.threads, t.Resting) ∧ ∀ m, s.Free m) := by
  have hrun : Run.run (Locks.step LockingCall.ops) (Locks.start 2) pushWhileSending =
    some ⟨[⟨[.businessMsgListEv, .businessMsgListMtx],
      [.release .businessMsgListEv, .release .businessMsgListMtx]⟩,
      ⟨[], LockingCall.ops (.sentBusinessSend [true])⟩]⟩ := rfl
  exact ⟨_, hrun, rfl, (mutexes_never_block hrun).2⟩

end DHGateway
