import DHGateway.Session.SessionIter

/-!
# Stream calls in progress at once

`start_real_stream`, `start_play_back` and `stop_play` as threads that interleave at the calls of
the SDKs, at the sections under `session_map_lock` and, in a stop, at each access of a handle,
together with `onclose` events and the destruction of sessions that nothing points to any more.
Other code runs with the point before it: a session that is being started is known to its own
thread only.
-/

namespace DHGateway

open PlaySession

/-- A call of `start_real_stream` or `start_play_back`. -/
inductive StartCall where
  | real (login : LoginResults) (realPlay : Play)
  | record (login : LoginResults) (record : Record)

/-- A call of one of the three stream functions of `sdk_wrap`. -/
inductive StreamCall where
  | start (c : StartCall)
  | stop (key : String)

/-- The state of a thread inside a stream function, named after what it does next. The pointer to
a session is an index into the heap. -/
inductive Pc where
  | lookup (c : StartCall)
  | connect (c : StartCall) (p : ℕ)
  | makeKeyFrame (c : StartCall) (p : ℕ)
  | setStreamType (c : StartCall) (p : ℕ)
  | setRecordType (c : StartCall) (p : ℕ)
  | play (c : StartCall) (p : ℕ)
  | insert (c : StartCall) (p : ℕ)
  | stopLookup (key : String)
  | stopSession (key : String) (p : ℕ)
  /-- a read of the first test of `stopSession` -/
  | stopOpened (key : String) (p : ℕ) (k : StreamKind)
  /-- the test of the handle of kind `k` -/
  | stopTest (key : String) (p : ℕ) (k : StreamKind) (ret : ℤ)
  /-- its second read, for the SDK call -/
  | stopArgument (key : String) (p : ℕ) (k : StreamKind) (ret : ℤ)
  /-- the SDK call that stops the stream `h` -/
  | stopCall (key : String) (p : ℕ) (k : StreamKind) (h : LLONG) (ret : ℤ)
  /-- the assignment of `0` to the handle -/
  | stopClear (key : String) (p : ℕ) (k : StreamKind) (ret : ℤ)
  /-- the test of `nMediaClient` in `disconnetMS` -/
  | testMedia (key : String) (p : ℕ) (ret : ℤ)
  /-- its second read -/
  | mediaArgument (key : String) (p : ℕ) (ret : ℤ)
  /-- `XHNetSDK_Disconnect(h)` -/
  | disconnect (key : String) (p : ℕ) (h : NETHANDLE) (ret : ℤ)
  /-- the assignment of `0` to `nMediaClient` -/
  | clearMedia (key : String) (p : ℕ) (ret : ℤ)
  | del (key : String) (p : ℕ) (ret : ℤ)
  | done (ret : ℤ)

/-- A call of the device SDK that opens or stops a stream. An opened stream is given the pointer
to its session for the data callback. -/
inductive StreamEvent where
  | started (k : StreamKind) (h : LLONG) (dwUser : ℕ)
  | stopped (k : StreamKind) (h : LLONG)
  deriving DecidableEq

/-- The sessions with those that were destroyed, the session map, what the device SDK was called
for (newest first), the threads, and how a loop over the map has failed. -/
structure Sys where
  heap : List PlaySession
  freed : List ℕ
  sessionMap : SessionMap ℕ
  log : List StreamEvent
  threads : List Pc
  fault : Option MapIter.Error

/-- What a step of a thread is answered; each step looks at the part it needs. -/
structure Answers where
  mem : PlaySession
  netTimes : NetTimes
  media : MediaAnswers
  start : StartAnswers
  stop : StopAnswers

inductive Action where
  | call (c : StreamCall)
  | step (i : ℕ) (a : Answers)
  | onclose (clihandle : NETHANDLE)
  | destroy (p : ℕ) (val : ℤ)

namespace StartCall

def streamId : StartCall → String
  | .real _ p => p.streamId
  | .record _ r => r.streamId

def sdpIp : StartCall → String
  | .real _ p => p.sdpIp
  | .record _ r => r.sdpIp

def port : StartCall → ℤ
  | .real _ p => p.port
  | .record _ r => r.port

def streamMode : StartCall → ℤ
  | .real _ p => p.streamMode
  | .record _ r => r.streamMode

def newSession (mem : PlaySession) : StartCall → PlaySession
  | .real login p => .new mem login.handle p.channel p.streamId
  | .record login r => .new mem login.handle r.channel r.streamId

def kind : StartCall → StreamKind
  | .real _ _ => .real
  | .record _ _ => .record

/-- `CLIENT_RealPlayByDataType` or `CLIENT_PlayBackByDataType`. -/
def playByDataType (a : StartAnswers) : StartCall → LLONG
  | .real _ _ => a.realPlayByDataType
  | .record _ _ => a.playBackByDataType

/-- The session after the stream was opened as `h`, or could not be opened. -/
def played (s : PlaySession) (h : LLONG) : StartCall → PlaySession
  | .real _ _ => { s with lRealPlayHandle := h, isRun := true }
  | .record _ _ =>
    if h = 0 then { s with lRecordPlayHandle := h }
    else { s with lRecordPlayHandle := h, isRun := true }

/-- The first SDK call of `startRealPlaySession` or `startRecordPlaySession`. -/
def begin (p : ℕ) (c : StartCall) : Pc :=
  match c with
  | .real _ _ => .makeKeyFrame c p
  | .record _ _ => .setStreamType c p

/-- Where a call goes when `startRealPlaySession` or `startRecordPlaySession` has returned. -/
def started (p : ℕ) (ret : ℤ) (c : StartCall) : Pc :=
  if ret ≠ 0 then .done ret else .insert c p

end StartCall

def StreamCall.entry : StreamCall → Pc
  | .start c => .lookup c
  | .stop key => .stopLookup key

def Pc.held : Pc → Option ℕ
  | .lookup _ | .stopLookup _ | .done _ => none
  | .connect _ p | .makeKeyFrame _ p | .setStreamType _ p | .setRecordType _ p | .play _ p
  | .insert _ p | .stopSession _ p | .stopOpened _ p _ | .stopTest _ p _ _ | .stopArgument _ p _ _
  | .stopCall _ p _ _ _ | .stopClear _ p _ _ | .testMedia _ p _ | .mediaArgument _ p _
  | .disconnect _ p _ _ | .clearMedia _ p _ | .del _ p _ => some p

def Pc.isDone : Pc → Bool
  | .done _ => true
  | _ => false

/-- The session that a thread is starting and no other thread can see. -/
def Pc.starting : Pc → Option ℕ
  | .connect _ p | .makeKeyFrame _ p | .setStreamType _ p | .setRecordType _ p | .play _ p
  | .insert _ p => some p
  | _ => none

def Pc.startKey : Pc → Option String
  | .lookup c | .connect c _ | .makeKeyFrame c _ | .setStreamType c _ | .setRecordType c _
  | .play c _ | .insert c _ => some c.streamId
  | _ => none

def Pc.stopKey : Pc → Option String
  | .stopLookup key | .stopSession key _ | .stopOpened key _ _ | .stopTest key _ _ _
  | .stopArgument key _ _ _ | .stopCall key _ _ _ _ | .stopClear key _ _ _ | .testMedia key _ _
  | .mediaArgument key _ _ | .disconnect key _ _ _ | .clearMedia key _ _ | .del key _ _ => some key
  | _ => none

/-- The call that a thread is in, and the session that it starts. -/
def Pc.start : Pc → Option (StartCall × ℕ)
  | .connect c p | .makeKeyFrame c p | .setStreamType c p | .setRecordType c p | .play c p
  | .insert c p => some (c, p)
  | _ => none

def Pc.stop : Pc → Option (String × ℕ)
  | .stopSession key p | .stopOpened key p _ | .stopTest key p _ _ | .stopArgument key p _ _
  | .stopCall key p _ _ _ | .stopClear key p _ _ | .testMedia key p _ | .mediaArgument key p _
  | .disconnect key p _ _ | .clearMedia key p _ | .del key p _ => some (key, p)
  | _ => none

/-- A thread is before the call that stops a stream or right behind it. -/
def Pc.atStream : Pc → Bool
  | .stopCall _ _ _ _ _ | .stopClear _ _ _ _ => true
  | _ => false

lemma Pc.of_start {pc : Pc} {c : StartCall} {p : ℕ} (h : pc.start = some (c, p)) :
    pc.held = some p ∧ pc.starting = some p ∧ pc.startKey = some c.streamId ∧ pc.stopKey = none ∧
      pc.atStream = false := by
  cases pc <;> simp only [Pc.start, Option.some.injEq, Prod.mk.injEq, reduceCtorEq] at h
  all_goals
    obtain ⟨rfl, rfl⟩ := h
    exact ⟨rfl, rfl, rfl, rfl, rfl⟩

lemma Pc.of_stop {pc : Pc} {key : String} {p : ℕ} (h : pc.stop = some (key, p)) :
    pc.held = some p ∧ pc.starting = none ∧ pc.startKey = none ∧ pc.stopKey = some key := by
  cases pc <;> simp only [Pc.stop, Option.some.injEq, Prod.mk.injEq, reduceCtorEq] at h
  all_goals
    obtain ⟨rfl, rfl⟩ := h
    exact ⟨rfl, rfl, rfl, rfl⟩

/-- The reads of the first test of `stopSession` in their order. -/
def Pc.openedNext (key : String) (p : ℕ) : StreamKind → Pc
  | .record => .stopOpened key p .download
  | .download => .stopOpened key p .real
  | .real => .del key p 0

/-- The blocks of `stopSession` in their order. -/
def Pc.stopNext (key : String) (p : ℕ) (ret : ℤ) : StreamKind → Pc
  | .record => .stopTest key p .real ret
  | .real => .stopTest key p .download ret
  | .download => .testMedia key p ret

namespace Sys

def start : Sys :=
  ⟨[], [], ∅, [], [], none⟩

/-- `get_clihandle` of the session at `p`. -/
def getClihandle (s : Sys) (p : ℕ) : NETHANDLE :=
  match s.heap[p]? with
  | some session => session.nMediaClient
  | none => 0

/-- The session that a pointer leads to is replaced by a later state of it. -/
def store (s : Sys) (p : ℕ) (session : PlaySession) : Sys :=
  { s with heap := s.heap.set p session }

/-- One step of a thread at the given point, without the thread's own new place. -/
def advance (s : Sys) (a : Answers) : Pc → Option (Sys × Pc)
  | .lookup c =>
    match s.sessionMap.getPlaySession c.streamId with
    | some _ => some (s, .done 0)
    | none =>
      let p := s.heap.length
      some ({ s with heap := s.heap ++ [c.newSession a.mem] },
        if c.sdpIp ≠ "" then .connect c p else c.begin p)
  -- `setMSAddr` of a session that no other thread can reach yet
  | .connect c p => do
    let session ← s.heap[p]?
    some (s.store p (session.setMSAddr a.media c.sdpIp c.port c.streamMode).2, c.begin p)
  | .makeKeyFrame c p => some (s, if a.start.makeKeyFrame then .play c p else c.started p 0)
  | .setStreamType c p =>
    some (s, if a.start.setStreamType then .setRecordType c p
      else c.started p (dhSdkGetLastError a.start.lastError))
  | .setRecordType c p =>
    some (s, if a.start.setRecordType then .play c p
      else c.started p (dhSdkGetLastError a.start.lastError))
  | .play c p => do
    let session ← s.heap[p]?
    let h := c.playByDataType a.start
    let s := s.store p (c.played session h)
    if h = 0 then some (s, c.started p (dhSdkGetLastError a.start.lastError))
    else some ({ s with log := .started c.kind h p :: s.log }, c.started p 0)
  | .insert c p =>
    let (inserted, m) := s.sessionMap.insertPlaySession c.streamId p
    some ({ s with sessionMap := m }, .done (if !inserted then 1 else 0))
  | .stopLookup key =>
    match s.sessionMap.getPlaySession key with
    | some p => some (s, .stopSession key p)
    | none => some (s, .done (-1))
  | .stopSession key p => do
    let session ← s.heap[p]?
    some (s.store p { session with isRun := false }, .stopOpened key p .record)
  | .stopOpened key p k => do
    let session ← s.heap[p]?
    some (s, if session.handle k = 0 then .openedNext key p k else .stopTest key p .record 0)
  -- `StopSession` tests the member, passes it to the SDK and clears it, each in a step of its own
  | .stopTest key p k ret => do
    let session ← s.heap[p]?
    some (s, if session.handle k = 0 then .stopNext key p ret k else .stopArgument key p k ret)
  | .stopArgument key p k ret => do
    let session ← s.heap[p]?
    some (s, .stopCall key p k (session.handle k) ret)
  | .stopCall key p k h ret =>
    some ({ s with log := .stopped k h :: s.log },
      .stopClear key p k (if a.stop.stop k then ret else dhSdkGetLastError (a.stop.lastError k)))
  | .stopClear key p k ret => do
    let session ← s.heap[p]?
    some (s.store p (session.clearHandle k), .stopNext key p ret k)
  | .testMedia key p ret => do
    let session ← s.heap[p]?
    some (s, if session.nMediaClient = 0 then .del key p ret else .mediaArgument key p ret)
  | .mediaArgument key p ret => do
    let session ← s.heap[p]?
    some (s, .disconnect key p session.nMediaClient ret)
  -- the member is cleared only when the library returns 0
  | .disconnect key p _ ret =>
    some (s, if a.stop.disconnect = 0 then .clearMedia key p ret else .del key p ret)
  | .clearMedia key p ret => do
    let session ← s.heap[p]?
    some (s.store p { session with nMediaClient := 0 }, .del key p ret)
  | .del key _ ret =>
    some ({ s with sessionMap := s.sessionMap.delPlaySession key }, .done ret)
  | .done _ => none

/-- No pointer to the session at `p` is left. -/
def Unreferenced (s : Sys) (p : ℕ) : Prop :=
  (∀ e ∈ s.sessionMap.entries, e.2 ≠ p) ∧ ∀ pc ∈ s.threads, pc.held ≠ some p

instance (s : Sys) (p : ℕ) : Decidable (s.Unreferenced p) := by
  unfold Unreferenced; infer_instance

/-- What happens next. `destroy` is `PlaySession::~PlaySession`: it closes the connection to the
media server and does not touch the stream handles. -/
def next (s : Sys) : Action → Option Sys
  | .call c => some { s with threads := s.threads ++ [c.entry] }
  | .step i a => do
    let pc ← s.threads[i]?
    let (s', pc') ← s.advance a pc
    some { s' with threads := s.threads.set i pc' }
  | .onclose clihandle =>
    match s.sessionMap.disconnetPlaySession s.getClihandle clihandle with
    | .ok m => some { s with sessionMap := m }
    -- the loop went on with the iterator of an erased entry
    | .error e => some { s with fault := some e }
  -- the destructor runs when the last `shared_ptr` is gone
  | .destroy p val => do
    let session ← s.heap[p]?
    if p ∉ s.freed ∧ s.Unreferenced p then
      some { s.store p (session.disconnetMS val) with freed := p :: s.freed }
    else none

/-- One step of the system. What comes after the use of an invalid iterator is undefined, and there
is no step. -/
def step (s : Sys) (act : Action) : Option Sys :=
  if s.fault = none then s.next act else none

def Quiescent (s : Sys) : Prop :=
  ∀ pc ∈ s.threads, pc.isDone = true

instance (s : Sys) : Decidable s.Quiescent := by
  unfold Quiescent; infer_instance

/-! ### What a step does -/

lemma step_eq_some {s s' : Sys} {act : Action} :
    s.step act = some s' ↔ s.fault = none ∧ s.next act = some s' := by
  rw [step, Option.ite_none_right_eq_some]

/-- Some session of the map has the handle. -/
def HasClihandle (s : Sys) (clihandle : NETHANDLE) : Prop :=
  s.sessionMap.HasClihandle s.getClihandle clihandle

instance (s : Sys) (clihandle : NETHANDLE) : Decidable (s.HasClihandle clihandle) := by
  unfold HasClihandle; infer_instance

/-- A close that no session of the map is meant by changes nothing, and any other one fails. -/
lemma next_onclose {s s' : Sys} {clihandle : NETHANDLE}
    (h : s.next (.onclose clihandle) = some s') :
    (¬ s.HasClihandle clihandle ∧ s' = s) ∨
      (s.HasClihandle clihandle ∧ s' = { s with fault := some .invalidIterator }) := by
  by_cases hhas : s.HasClihandle clihandle
  · rw [next, (SessionMap.disconnetPlaySession_of_has hhas).1] at h
    exact Or.inr ⟨hhas, (Option.some.inj h).symm⟩
  · rw [next, (SessionMap.disconnetPlaySession_of_not hhas).1] at h
    exact Or.inl ⟨hhas, (Option.some.inj h).symm⟩

lemma next_step {s s' : Sys} {i : ℕ} {a : Answers} (h : s.next (.step i a) = some s') :
    ∃ pc t pc', s.threads[i]? = some pc ∧ s.advance a pc = some (t, pc') ∧
      s' = { t with threads := s.threads.set i pc' } := by
  obtain ⟨pc, hi, h⟩ := Option.bind_eq_some_iff.mp h
  obtain ⟨⟨t, pc'⟩, hadv, h⟩ := Option.bind_eq_some_iff.mp h
  exact ⟨pc, t, pc', hi, hadv, (Option.some.inj h).symm⟩

lemma next_destroy {s s' : Sys} {p : ℕ} {val : ℤ} (h : s.next (.destroy p val) = some s') :
    ∃ session, s.heap[p]? = some session ∧ p ∉ s.freed ∧ s.Unreferenced p ∧
      s' = { s.store p (session.disconnetMS val) with freed := p :: s.freed } := by
  obtain ⟨session, hp, h⟩ := Option.bind_eq_some_iff.mp h
  split_ifs at h with hcond
  exact ⟨session, hp, hcond.1, hcond.2, (Option.some.inj h).symm⟩

/-- A handle of the session at `p`. -/
def handleOf (s : Sys) (p : ℕ) (k : StreamKind) : Option LLONG :=
  (s.heap[p]?).map (·.handle k)

/-- Two states that differ at most in what their sessions hold besides the handles. -/
structure Same (s s' : Sys) : Prop where
  length : s'.heap.length = s.heap.length
  freed : s'.freed = s.freed
  sessionMap : s'.sessionMap = s.sessionMap
  log : s'.log = s.log
  fault : s'.fault = s.fault
  handle : ∀ k p, s'.handleOf p k = s.handleOf p k

/-- The steps of a thread by what they do to the sessions, the map and the streams. -/
inductive Move (s : Sys) (a : Answers) : Pc → Sys → Pc → Prop where
  | found {c : StartCall} {p : ℕ} (h : s.sessionMap.getPlaySession c.streamId = some p) :
    Move s a (.lookup c) s (.done 0)
  | alloc {c : StartCall} {pc' : Pc} (h : s.sessionMap.getPlaySession c.streamId = none)
    (hpc' : pc'.start = some (c, s.heap.length)) :
    Move s a (.lookup c) { s with heap := s.heap ++ [c.newSession a.mem] } pc'
  /-- a start goes on to its next call -/
  | goOn {s' : Sys} {pc pc' : Pc} {c : StartCall} {p : ℕ} (hs : s.Same s')
    (hpc : pc.start = some (c, p)) (hne : pc ≠ .insert c p) (hpc' : pc'.start = some (c, p)) :
    Move s a pc s' pc'
  /-- a start ends because the device cannot be prepared for a playback -/
  | giveUp {pc : Pc} {c : StartCall} {p : ℕ} {ret : ℤ} (hpc : pc.start = some (c, p))
    (hne : pc ≠ .insert c p)
    (hfail : a.start.setStreamType = false ∨ a.start.setRecordType = false) :
    Move s a pc s (.done ret)
  | unplayed {c : StartCall} {p : ℕ} {session : PlaySession} {ret : ℤ}
    (hp : s.heap[p]? = some session) (h0 : c.playByDataType a.start = 0) :
    Move s a (.play c p) (s.store p (c.played session 0)) (c.started p ret)
  | played {c : StartCall} {p : ℕ} {session : PlaySession} {h : LLONG}
    (hp : s.heap[p]? = some session) :
    Move s a (.play c p)
      { s.store p (c.played session h) with log := .started c.kind h p :: s.log } (.insert c p)
  | inserted {c : StartCall} {p : ℕ} {ret : ℤ} :
    Move s a (.insert c p)
      { s with sessionMap := (s.sessionMap.insertPlaySession c.streamId p).2 } (.done ret)
  | missing {key : String} (h : s.sessionMap.getPlaySession key = none) :
    Move s a (.stopLookup key) s (.done (-1))
  | caught {key : String} {p : ℕ} (h : s.sessionMap.getPlaySession key = some p) :
    Move s a (.stopLookup key) s (.stopSession key p)
  /-- a stop goes on without a stream to stop -/
  | stopOn {s' : Sys} {pc pc' : Pc} {key : String} {p : ℕ} (hs : s.Same s')
    (hpc : pc.stop = some (key, p)) (hpc' : pc'.stop = some (key, p))
    (hcalm : pc'.atStream = false) :
    Move s a pc s' pc'
  | stopRead {key : String} {p : ℕ} {k : StreamKind} {ret : ℤ} {session : PlaySession}
    (hp : s.heap[p]? = some session) :
    Move s a (.stopArgument key p k ret) s (.stopCall key p k (session.handle k) ret)
  | stopCall {key : String} {p : ℕ} {k : StreamKind} {h : LLONG} {ret ret' : ℤ} :
    Move s a (.stopCall key p k h ret) { s with log := .stopped k h :: s.log }
      (.stopClear key p k ret')
  | stopClear {key : String} {p : ℕ} {k : StreamKind} {ret : ℤ} {session : PlaySession}
    (hp : s.heap[p]? = some session) :
    Move s a (.stopClear key p k ret) (s.store p (session.clearHandle k)) (.stopNext key p ret k)
  | del {key : String} {p : ℕ} {ret : ℤ} :
    Move s a (.del key p ret) { s with sessionMap := s.sessionMap.delPlaySession key } (.done ret)

@[simp] lemma store_length (s : Sys) (p : ℕ) (session : PlaySession) :
    (s.store p session).heap.length = s.heap.length :=
  List.length_set

lemma handleOf_of_getElem? {s : Sys} {p : ℕ} {session : PlaySession}
    (h : s.heap[p]? = some session) (k : StreamKind) :
    s.handleOf p k = some (session.handle k) := by
  rw [handleOf, h, Option.map_some]

lemma handleOf_store_self {s : Sys} {p : ℕ} {session : PlaySession}
    (h : s.heap[p]? = some session) (session' : PlaySession) (k : StreamKind) :
    (s.store p session').handleOf p k = some (session'.handle k) := by
  have hlt : p < s.heap.length := (List.getElem?_eq_some_iff.mp h).1
  rw [handleOf, store, List.getElem?_set_self hlt, Option.map_some]

lemma handleOf_store_ne (s : Sys) {p q : ℕ} (session' : PlaySession) (k : StreamKind)
    (h : q ≠ p) : (s.store p session').handleOf q k = s.handleOf q k := by
  rw [handleOf, store, List.getElem?_set_ne h.symm, handleOf]

lemma handleOf_store_same {s : Sys} {p : ℕ} {session session' : PlaySession} {k : StreamKind}
    (h : s.heap[p]? = some session) (hk : session'.handle k = session.handle k) (q : ℕ) :
    (s.store p session').handleOf q k = s.handleOf q k := by
  by_cases hq : q = p
  · rw [hq, handleOf_store_self h, handleOf_of_getElem? h, hk]
  · exact handleOf_store_ne s session' k hq

lemma handle_setMSAddr (s : PlaySession) (a : MediaAnswers) (ip : String) (port linkType : ℤ)
    (k : StreamKind) : (s.setMSAddr a ip port linkType).2.handle k = s.handle k := by
  simp only [setMSAddr, connetMS, creatPacket]
  split_ifs <;> cases k <;> rfl

lemma Same.refl (s : Sys) : s.Same s :=
  ⟨rfl, rfl, rfl, rfl, rfl, fun _ _ => rfl⟩

lemma same_store {s : Sys} {p : ℕ} {session session' : PlaySession}
    (hp : s.heap[p]? = some session) (hk : ∀ k, session'.handle k = session.handle k) :
    s.Same (s.store p session') :=
  ⟨store_length s p session', rfl, rfl, rfl, rfl, fun k => handleOf_store_same hp (hk k)⟩

lemma start_begin (c : StartCall) (p : ℕ) : (c.begin p).start = some (c, p) := by
  cases c <;> rfl

lemma stop_openedNext (key : String) (p : ℕ) (k : StreamKind) :
    (Pc.openedNext key p k).stop = some (key, p) ∧ (Pc.openedNext key p k).atStream = false := by
  cases k <;> exact ⟨rfl, rfl⟩

lemma stop_stopNext (key : String) (p : ℕ) (ret : ℤ) (k : StreamKind) :
    (Pc.stopNext key p ret k).stop = some (key, p) ∧
      (Pc.stopNext key p ret k).atStream = false := by
  cases k <;> exact ⟨rfl, rfl⟩

/-- A start that is refused before its stream is asked for gives up, or with the error `0` goes on
to the insert. -/
lemma move_refused {s : Sys} {a : Answers} {pc : Pc} {c : StartCall} {p : ℕ} (ret : ℤ)
    (hpc : pc.start = some (c, p)) (hne : pc ≠ .insert c p)
    (hfail : a.start.setStreamType = false ∨ a.start.setRecordType = false) :
    Move s a pc s (c.started p ret) := by
  rw [StartCall.started]
  split_ifs
  · exact .giveUp hpc hne hfail
  · exact .goOn (Same.refl s) hpc hne rfl

/-- Every step of a thread is one of the moves. -/
theorem advance_move {s s' : Sys} {a : Answers} {pc pc' : Pc}
    (h : s.advance a pc = some (s', pc')) : Move s a pc s' pc' := by
  cases pc with
  | lookup c =>
    simp only [Sys.advance] at h
    split at h <;> simp only [Option.some.injEq, Prod.mk.injEq] at h <;> obtain ⟨rfl, rfl⟩ := h
    · exact .found ‹_›
    · refine .alloc ‹_› ?_
      split
      · rfl
      · exact start_begin c _
  | connect c p =>
    obtain ⟨session, hp, h⟩ := Option.bind_eq_some_iff.mp h
    simp only [Option.some.injEq, Prod.mk.injEq] at h
    obtain ⟨rfl, rfl⟩ := h
    exact .goOn (same_store hp (handle_setMSAddr session _ _ _ _)) rfl (by simp) (start_begin c p)
  | makeKeyFrame c p =>
    simp only [Sys.advance, Option.some.injEq, Prod.mk.injEq] at h
    obtain ⟨rfl, rfl⟩ := h
    refine .goOn (Same.refl s) rfl (by simp) ?_
    split <;> rfl
  -- a refused mode ends the start with the error, and no stream is open
  | setStreamType c p =>
    simp only [Sys.advance, Option.some.injEq, Prod.mk.injEq] at h
    obtain ⟨rfl, rfl⟩ := h
    split
    · exact .goOn (Same.refl s) rfl (by simp) rfl
    · exact move_refused _ rfl (by simp) (Or.inl (Bool.eq_false_iff.mpr ‹_›))
  | setRecordType c p =>
    simp only [Sys.advance, Option.some.injEq, Prod.mk.injEq] at h
    obtain ⟨rfl, rfl⟩ := h
    split
    · exact .goOn (Same.refl s) rfl (by simp) rfl
    · exact move_refused _ rfl (by simp) (Or.inr (Bool.eq_false_iff.mpr ‹_›))
  | play c p =>
    obtain ⟨session, hp, h⟩ := Option.bind_eq_some_iff.mp h
    dsimp only at h
    split_ifs at h with h0 <;> simp only [Option.some.injEq, Prod.mk.injEq] at h <;>
      obtain ⟨rfl, rfl⟩ := h
    · rw [h0]
      exact .unplayed hp h0
    · exact .played hp
  | insert c p =>
    simp only [Sys.advance, Option.some.injEq, Prod.mk.injEq] at h
    obtain ⟨rfl, rfl⟩ := h
    exact .inserted
  | stopLookup key =>
    simp only [Sys.advance] at h
    split at h <;> simp only [Option.some.injEq, Prod.mk.injEq] at h <;> obtain ⟨rfl, rfl⟩ := h
    · exact .caught ‹_›
    · exact .missing ‹_›
  | stopSession key p =>
    obtain ⟨session, hp, h⟩ := Option.bind_eq_some_iff.mp h
    have hsame : ∀ k, ({ session with isRun := false } : PlaySession).handle k =
        session.handle k := by
      intro k
      cases k <;> rfl
    simp only [Option.some.injEq, Prod.mk.injEq] at h
    obtain ⟨rfl, rfl⟩ := h
    exact .stopOn (same_store hp hsame) rfl rfl rfl
  | stopOpened key p k =>
    obtain ⟨session, hp, h⟩ := Option.bind_eq_some_iff.mp h
    simp only [Option.some.injEq, Prod.mk.injEq] at h
    obtain ⟨rfl, rfl⟩ := h
    split
    · -- the first test of `StopSession` goes through the three handles
      obtain ⟨hstop, hcalm⟩ := stop_openedNext key p k
      exact .stopOn (Same.refl s) rfl hstop hcalm
    · exact .stopOn (Same.refl s) rfl rfl rfl
  | stopTest key p k ret =>
    obtain ⟨session, hp, h⟩ := Option.bind_eq_some_iff.mp h
    simp only [Option.some.injEq, Prod.mk.injEq] at h
    obtain ⟨rfl, rfl⟩ := h
    split
    · obtain ⟨hstop, hcalm⟩ := stop_stopNext key p ret k
      exact .stopOn (Same.refl s) rfl hstop hcalm
    · exact .stopOn (Same.refl s) rfl rfl rfl
  | stopArgument key p k ret =>
    obtain ⟨session, hp, h⟩ := Option.bind_eq_some_iff.mp h
    simp only [Option.some.injEq, Prod.mk.injEq] at h
    obtain ⟨rfl, rfl⟩ := h
    exact .stopRead hp
  | stopCall key p k x ret =>
    simp only [Sys.advance, Option.some.injEq, Prod.mk.injEq] at h
    obtain ⟨rfl, rfl⟩ := h
    exact .stopCall
  | stopClear key p k ret =>
    obtain ⟨session, hp, h⟩ := Option.bind_eq_some_iff.mp h
    simp only [Option.some.injEq, Prod.mk.injEq] at h
    obtain ⟨rfl, rfl⟩ := h
    exact .stopClear hp
  | testMedia key p ret =>
    obtain ⟨session, hp, h⟩ := Option.bind_eq_some_iff.mp h
    simp only [Option.some.injEq, Prod.mk.injEq] at h
    obtain ⟨rfl, rfl⟩ := h
    split <;> exact .stopOn (Same.refl s) rfl rfl rfl
  | mediaArgument key p ret =>
    obtain ⟨session, hp, h⟩ := Option.bind_eq_some_iff.mp h
    simp only [Option.some.injEq, Prod.mk.injEq] at h
    obtain ⟨rfl, rfl⟩ := h
    exact .stopOn (Same.refl s) rfl rfl rfl
  | disconnect key p x ret =>
    simp only [Sys.advance, Option.some.injEq, Prod.mk.injEq] at h
    obtain ⟨rfl, rfl⟩ := h
    split <;> exact .stopOn (Same.refl s) rfl rfl rfl
  | clearMedia key p ret =>
    obtain ⟨session, hp, h⟩ := Option.bind_eq_some_iff.mp h
    have hsame : ∀ k, ({ session with nMediaClient := 0 } : PlaySession).handle k =
        session.handle k := by
      intro k
      cases k <;> rfl
    simp only [Option.some.injEq, Prod.mk.injEq] at h
    obtain ⟨rfl, rfl⟩ := h
    exact .stopOn (same_store hp hsame) rfl rfl rfl
  | del key p ret =>
    simp only [Sys.advance, Option.some.injEq, Prod.mk.injEq] at h
    obtain ⟨rfl, rfl⟩ := h
    exact .del
  | done ret => exact absurd h (by simp [Sys.advance])

lemma fault_of_advance {s s' : Sys} {a : Answers} {pc pc' : Pc}
    (h : s.advance a pc = some (s', pc')) : s'.fault = s.fault := by
  cases advance_move h with
  | goOn hs _ _ _ => exact hs.fault
  | stopOn hs _ _ _ => exact hs.fault
  | _ => rfl

/-- Only a close that finds a session fails. -/
lemma fault_of_step {s s' : Sys} {act : Action} (hs : s.step act = some s')
    (hclose : ∀ clihandle, act = .onclose clihandle → ¬ s.HasClihandle clihandle) :
    s'.fault = none := by
  obtain ⟨hfault, hs⟩ := step_eq_some.mp hs
  cases act with
  | call c =>
    rw [← Option.some.inj hs]
    exact hfault
  | step i a =>
    obtain ⟨pc, t, pc', _, hadv, rfl⟩ := next_step hs
    exact (fault_of_advance hadv).trans hfault
  | onclose clihandle =>
    rcases next_onclose hs with ⟨_, rfl⟩ | ⟨hhas, _⟩
    · exact hfault
    · -- a close that matches an entry is what the hypothesis excludes
      exact absurd hhas (hclose clihandle rfl)
  | destroy p val =>
    obtain ⟨session, _, _, _, rfl⟩ := next_destroy hs
    exact hfault

end Sys

/-! ### A call and its answers for examples -/

/-- A start of the real-time stream `s1`. -/
def startS1 : StreamCall :=
  .start (.real ⟨3, 8, 0, "10.0.0.2:37777:admin"⟩
    ⟨"CHANNEL_PLAY", "1", "d1", 0, 2, "", "s1", "10.0.0.9", 9000, "", "10.0.0.9", ""⟩)

/-- All calls succeed; a stream that is opened is `h`, and the connection to the media server is
`7`. -/
def Answers.ok (h : LLONG) : Answers :=
  ⟨zeroed, .zeroed, ⟨(0, 7), 1, (0, 1), 0, 1⟩, ⟨true, h, true, true, h, 0⟩,
    ⟨fun _ => true, fun _ => 0, 0⟩⟩

end DHGateway
