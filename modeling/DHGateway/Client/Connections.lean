import DHGateway.Client.Business
import DHGateway.Client.Held

/-!
# The connections of the gateway

`client_manage` has three clients. Its functions connect them, reconnect them and publish on them;
`disconnet_func` disposes of the connections that `Publish` of one of the clients records. Any
number of calls of the functions may be in progress at once.
-/

namespace DHGateway

/-- The clients of `client_manage`. -/
inductive ClientObject where
  | objRabbitmq
  | objDynamicRabbitmqRecv
  | objDynamicRabbitmqSend
  deriving DecidableEq

/-- The operations of a client that the functions use. -/
inductive CallName where
  | connect
  | disconnect
  | exchangeDeclare
  | queueDeclare
  | queueBind
  | publish
  | consumer
  deriving DecidableEq

def ClientOp.name : ClientOp → Option CallName
  | .connect _ => some .connect
  | .disconnect _ => some .disconnect
  | .exchangeDeclare _ => some .exchangeDeclare
  | .queueDeclare _ => some .queueDeclare
  | .queueBind _ => some .queueBind
  | .publish _ => some .publish
  | .consumer _ => some .consumer
  | .disconnectEx _ | .queueUnbind _ | .queueDelete _ => none

/-- Where a function of `client_manage` is: at the first `Publish` of `send_public_queue`, at calls
whose results it only logs, in `restart_business_queue`, with the calls before the loop of
`start_business_queue`, or in `send_business_queue`. -/
inductive ManagePc where
  | sendPublicQueue
  | logging (calls : List (ClientObject × CallName))
  | restarting (calls : List CallName)
  | sendBusinessQueue (pc : SendPc)

namespace ManagePc

/-- `connet_public`, which makes the first connection. -/
def connetPublic : ManagePc :=
  .logging [(.objRabbitmq, .connect), (.objRabbitmq, .exchangeDeclare)]

def reconnetPublic : ManagePc :=
  .logging [(.objRabbitmq, .disconnect), (.objRabbitmq, .connect), (.objRabbitmq, .exchangeDeclare)]

def connetBusiness : ManagePc :=
  .logging [(.objDynamicRabbitmqRecv, .connect), (.objDynamicRabbitmqRecv, .exchangeDeclare),
    (.objDynamicRabbitmqSend, .connect), (.objDynamicRabbitmqSend, .exchangeDeclare)]

def restartBusinessQueue : ManagePc :=
  .restarting [.disconnect, .connect, .exchangeDeclare, .queueDeclare, .queueBind]

def call : ManagePc → Option (ClientObject × CallName)
  | .sendPublicQueue => some (.objRabbitmq, .publish)
  | .logging calls => calls.head?
  | .restarting calls => some (.objDynamicRabbitmqRecv, calls.headD .consumer)
  | .sendBusinessQueue .publish => some (.objDynamicRabbitmqSend, .publish)
  | .sendBusinessQueue .connect => some (.objDynamicRabbitmqSend, .connect)
  | .sendBusinessQueue .exchangeDeclare => some (.objDynamicRabbitmqSend, .exchangeDeclare)
  | .sendBusinessQueue .republish => some (.objDynamicRabbitmqSend, .publish)

def next (ret : ℤ) : ManagePc → ManagePc
  | .sendPublicQueue =>
    .logging (if ret ≠ 0 then [(.objRabbitmq, .disconnect), (.objRabbitmq, .connect),
      (.objRabbitmq, .exchangeDeclare), (.objRabbitmq, .publish)] else [])
  | .logging calls => .logging calls.tail
  | .restarting [] =>
    if ret = 0 ∨ ret = timeoutError then .restarting [] else restartBusinessQueue
  | .restarting (_ :: calls) => .restarting calls
  | .sendBusinessQueue .publish =>
    if ret ≠ 0 then .sendBusinessQueue .connect else .logging []
  | .sendBusinessQueue .connect =>
    if ret ≠ 0 then .logging [] else .sendBusinessQueue .exchangeDeclare
  | .sendBusinessQueue .exchangeDeclare =>
    if ret ≠ 0 then .logging [] else .sendBusinessQueue .republish
  | .sendBusinessQueue .republish => .logging []

end ManagePc

/-- A function of `client_manage` that uses its clients. -/
inductive ManageFunction where
  | connetPublic
  | sendPublicQueue
  | reconnetPublic
  | connetBusiness
  | restartBusinessQueue
  | sendBusinessQueue

/-- The clients of the gateway and the connections of the library, with the functions in progress.
`misused` records a `DisconnectEx` without a recorded connection that still exists. -/
structure Connections where
  amqp : Amqp
  client : ClientObject → RabbitmqClient
  republic : Bool
  /-- `_disconnet_ev` -/
  disconnetEv : ℕ
  /-- `disconnet_func` is past its wait. -/
  disconneting : Bool
  running : List ManagePc
  misused : Bool

/-- What can happen next: a function is called, or makes its next call, with the answers to it;
`disconnet_func` wakes up, or calls `DisconnectEx`. -/
inductive ManageAction where
  | call (f : ManageFunction)
  | advance (i : ℕ) (op : ClientOp)
  | wake
  | disconnectEx (a : DisconnectAnswers)

namespace Connections

def start : Connections :=
  ⟨.start, fun _ => .new, false, 0, false, [], false⟩

def endpoint (s : Connections) (o : ClientObject) : Endpoint :=
  ⟨s.amqp, s.client o⟩

def put (s : Connections) (o : ClientObject) (e : Endpoint) : Connections :=
  { s with amqp := e.amqp, client := Function.update s.client o e.client }

def entry (s : Connections) : ManageFunction → ManagePc
  | .connetPublic => .connetPublic
  | .sendPublicQueue => .sendPublicQueue
  | .reconnetPublic => .reconnetPublic
  | .connetBusiness => .connetBusiness
  | .restartBusinessQueue => .restartBusinessQueue
  | .sendBusinessQueue => .sendBusinessQueue (if s.republic then .connect else .publish)

/-- What `send_business_queue` makes of the result of a `Publish`. -/
def noteResult (s : Connections) (pc : ManagePc) (ret : ℤ) : Connections :=
  match pc with
  | .sendBusinessQueue .publish =>
    if ret ≠ 0 then { s with republic := true, disconnetEv := s.disconnetEv + 1 }
    else { s with republic := false }
  | .sendBusinessQueue .republish => if ret = 0 then { s with republic := false } else s
  | _ => s

def advance (s : Connections) (i : ℕ) (op : ClientOp) : Option Connections := do
  let pc ← s.running[i]?
  let (o, name) ← pc.call
  if op.name ≠ some name then none
  else
    ((s.endpoint o).call op).map fun (ret, e) =>
      { (s.put o e).noteResult pc ret with running := s.running.set i (pc.next ret) }

/-- The connections as handles of the clients. Only a connection that
`objDynamicRabbitmq_send` has recorded is ever disposed of. -/
def handles (s : Connections) : Handles ClientObject where
  count := s.amqp.count
  destroyed := s.amqp.destroyed
  inUse := fun o => (s.client o).pConn
  aside := fun o => if o = .objDynamicRabbitmqSend then (s.client o).pDisConn else none
  misused := s.misused

def step (s : Connections) : ManageAction → Option Connections
  | .call f => some { s with running := s.running ++ [s.entry f] }
  | .advance i op => s.advance i op
  | .wake =>
    if s.disconneting = true ∨ s.disconnetEv = 0 then none
    else some { s with disconneting := true, disconnetEv := s.disconnetEv - 1 }
  | .disconnectEx a =>
    if s.disconneting = false then none
    else some { s.put .objDynamicRabbitmqSend
        ((s.endpoint .objDynamicRabbitmqSend).disconnectEx a) with
      disconneting := false
      misused := s.misused || !decide (s.handles.Pending .objDynamicRabbitmqSend) }

/-- Every connection is one that its client uses, one that was recorded to be disposed of, or was
destroyed, none twice; and `DisconnectEx` only ran for a recorded connection that existed. -/
def Kept (s : Connections) : Prop :=
  s.handles.Kept

/-- A call that loses no connection and destroys none again. -/
def KeepsCall (s : Connections) (o : ClientObject) : ClientOp → Prop
  | .connect _ =>
    ∀ c, (s.client o).pConn = some c →
      (o = .objDynamicRabbitmqSend ∧ (s.client o).pDisConn = some c) ∨ s.amqp.destroyed c = 1
  | .disconnect a =>
    errorMsg a.connectionClose = 0 →
      ∀ c, (s.client o).pConn = some c → s.amqp.destroyed c = 0
  | .publish a =>
    o = .objDynamicRabbitmqSend → (s.endpoint o).Unconfirmed a →
      ∀ c, (s.client o).pDisConn = some c →
        (s.client o).pConn = some c ∨ s.amqp.destroyed c = 1
  | _ => True

def Keeps (s : Connections) : ManageAction → Prop
  | .call _ | .wake => True
  | .advance i op =>
    ∀ pc o name, s.running[i]? = some pc → pc.call = some (o, name) → s.KeepsCall o op
  | .disconnectEx _ =>
    ∃ c, (s.client .objDynamicRabbitmqSend).pDisConn = some c ∧ s.amqp.destroyed c = 0

/-! ### `send_business_queue` in both models -/

/-- The function goes on, and leaves `_republic` and `_disconnet_ev`, as in the model of the
business queue. -/
theorem next_sendBusinessQueue {s : Connections} {b : Business} (pc : SendPc) (msg : String)
    (ret : ℤ) (hrepublic : s.republic = b.republic) (hev : s.disconnetEv = b.disconnetEv) :
    (s.noteResult (.sendBusinessQueue pc) ret).republic =
        (b.sendBusinessQueue pc msg ret).republic ∧
      (s.noteResult (.sendBusinessQueue pc) ret).disconnetEv =
        (b.sendBusinessQueue pc msg ret).disconnetEv ∧
      (ManagePc.sendBusinessQueue pc).next ret =
        match (b.sendBusinessQueue pc msg ret).consumer with
        | .sending pc' _ => .sendBusinessQueue pc'
        | _ => .logging [] := by
  by_cases hret : ret = 0
  · cases pc with
    | publish | republish =>
      simp [noteResult, Business.sendBusinessQueue, Business.delivered, ManagePc.next, hret, hev]
    | connect | exchangeDeclare =>
      simp [noteResult, Business.sendBusinessQueue, ManagePc.next, hret, hrepublic, hev]
  · cases pc with
    | publish => simp [noteResult, Business.sendBusinessQueue, ManagePc.next, hret, hev]
    | connect | exchangeDeclare | republish =>
      simp [noteResult, Business.sendBusinessQueue, ManagePc.next, hret, hrepublic, hev]

/-! ### Calls as steps of handles -/

section

variable (s : Connections) (o : ClientObject)

lemma handles_put (e : Endpoint) : (s.put o e).handles =
    { count := e.held.count
      destroyed := e.held.destroyed
      inUse := Function.update s.handles.inUse o e.held.pConn
      aside := if o = .objDynamicRabbitmqSend then
        Function.update s.handles.aside o e.held.pDisConn else s.handles.aside
      misused := s.misused } := by
  have hinUse : (s.put o e).handles.inUse = Function.update s.handles.inUse o e.held.pConn := by
    funext o'
    by_cases ho : o' = o
    · -- only the client that publishes records connections
      subst ho
      simp [handles, put, Endpoint.held]
    · simp [handles, put, ho]
  have haside : (s.put o e).handles.aside = if o = .objDynamicRabbitmqSend then
      Function.update s.handles.aside o e.held.pDisConn else s.handles.aside := by
    funext o'
    by_cases ho : o' = o
    · subst ho
      by_cases hsend : o' = .objDynamicRabbitmqSend
      · simp [handles, put, Endpoint.held, hsend]
      · simp [handles, put, hsend]
    · have hother : (s.put o e).handles.aside o' = s.handles.aside o' := by
        simp only [handles, put, Function.update_of_ne ho]
      rw [hother]
      split_ifs
      · exact (Function.update_of_ne ho _ _).symm
      · rfl
  rw [← hinUse, ← haside]
  rfl

@[simp] lemma update_inUse :
    Function.update s.handles.inUse o (s.endpoint o).held.pConn = s.handles.inUse :=
  Function.update_eq_self o s.handles.inUse

@[simp] lemma update_aside : (if o = .objDynamicRabbitmqSend then
    Function.update s.handles.aside o (s.endpoint o).held.pDisConn else s.handles.aside) =
      s.handles.aside := by
  split_ifs with hsend
  · subst hsend
    exact Function.update_eq_self _ s.handles.aside
  · rfl

lemma handles_put_same {e : Endpoint} (h : e.held = (s.endpoint o).held) :
    (s.put o e).handles = s.handles := by
  rw [handles_put, h, update_inUse, update_aside]
  rfl

lemma handles_connect (a : ConnectAnswers) :
    (s.put o ((s.endpoint o).connect a).2).handles =
      s.handles.step (.create o a.newConnection) := by
  rw [handles_put, Endpoint.held_connect]
  cases a.newConnection with
  | false =>
    simp only [Bool.false_eq_true, if_false, update_aside]
    rfl
  | true =>
    simp only [if_true, update_aside]
    rfl

lemma handles_disconnect (a : DisconnectAnswers) :
    (s.put o ((s.endpoint o).disconnect a).2).handles = s.handles.step
      (if errorMsg a.connectionClose ≠ 0 then .skip
        else .destroy o (decide (¬ a.destroyConnection < 0))) := by
  rw [handles_put, Endpoint.held_disconnect]
  by_cases hclose : errorMsg a.connectionClose ≠ 0
  · simp only [if_pos hclose, update_inUse, update_aside]
    rfl
  · by_cases hdestroy : a.destroyConnection < 0
    · simp only [if_neg hclose, if_pos hdestroy, update_inUse, update_aside]
      rw [decide_eq_false (not_not_intro hdestroy)]
      rfl
    · simp only [if_neg hclose, if_neg hdestroy, update_aside]
      rw [decide_eq_true hdestroy]
      rfl

lemma handles_publish (a : PublishAnswers) :
    (s.put o ((s.endpoint o).publish a).2).handles = s.handles.step
      (if o = .objDynamicRabbitmqSend ∧ (s.endpoint o).Unconfirmed a then .setAside o
        else .skip) := by
  rw [handles_put, Endpoint.held_publish]
  by_cases hrecord : (s.endpoint o).Unconfirmed a
  · by_cases hsend : o = .objDynamicRabbitmqSend
    · rw [if_pos hrecord, if_pos hsend, if_pos ⟨hsend, hrecord⟩]
      simp only [update_inUse]
      rfl
    · rw [if_pos hrecord, if_neg hsend, if_neg fun h => hsend h.1]
      simp only [update_inUse]
      rfl
  · rw [if_neg hrecord, update_inUse, update_aside, if_neg fun h => hrecord h.2]
    rfl

lemma handles_disconnectEx {t : Connections} (a : DisconnectAnswers)
    (h : s.step (.disconnectEx a) = some t) :
    t.handles = s.handles.step (.dispose .objDynamicRabbitmqSend
      (decide (errorMsg a.connectionClose = 0)) (decide (¬ a.destroyConnection < 0))) := by
  simp only [step] at h
  split_ifs at h
  rw [← Option.some.inj h]
  have hput := s.handles_put .objDynamicRabbitmqSend
    ((s.endpoint .objDynamicRabbitmqSend).disconnectEx a)
  rw [Endpoint.held_disconnectEx, if_pos rfl] at hput
  refine (congrArg (fun k : Handles ClientObject => { k with
    misused := s.misused || !decide (s.handles.Pending .objDynamicRabbitmqSend) }) hput).trans ?_
  -- a connection that cannot be closed stays recorded
  by_cases hclose : errorMsg a.connectionClose = 0
  · rw [if_neg (not_not_intro hclose), decide_eq_true hclose]
    -- after a failed destruction the pointer is kept, though the connection is gone
    by_cases hdestroy : a.destroyConnection < 0
    · rw [if_pos hdestroy, decide_eq_false (not_not_intro hdestroy)]
      have haside := s.update_aside .objDynamicRabbitmqSend
      rw [if_pos rfl] at haside
      simp only [update_inUse, haside]
      rfl
    · rw [if_neg hdestroy, decide_eq_true hdestroy]
      simp only [update_inUse]
      rfl
  · rw [if_pos hclose, decide_eq_false hclose]
    have haside := s.update_aside .objDynamicRabbitmqSend
    rw [if_pos rfl] at haside
    simp only [update_inUse, haside]
    rfl

end

/-- What a call of a function makes of the handles, and when it loses none. -/
lemma call_sim {s : Connections} {o : ClientObject} {op : ClientOp} {name : CallName}
    {r : ℤ × Endpoint} (hname : op.name = some name) (hr : (s.endpoint o).call op = some r) :
    ∃ act, (s.put o r.2).handles = s.handles.step act ∧
      (s.KeepsCall o op ↔ s.handles.Cond act) := by
  cases op with
  -- the pointer to the connection in use is overwritten
  | connect a =>
    rw [← Option.some.inj hr]
    refine ⟨_, handles_connect s o a, ?_⟩
    apply forall_congr'
    intro c
    apply imp_congr_right
    intro _
    apply or_congr_left
    simp [handles]
  | disconnect a =>
    rw [← Option.some.inj hr]
    refine ⟨_, handles_disconnect s o a, ?_⟩
    by_cases hclose : errorMsg a.connectionClose = 0
    · rw [if_neg (not_not_intro hclose)]
      exact ⟨fun h => h hclose, fun h _ => h⟩
    · rw [if_pos hclose]
      exact iff_of_true (fun h => absurd h hclose) trivial
  -- without a confirmation the connection is recorded over the one before
  | publish a =>
    rw [← Option.some.inj hr]
    refine ⟨_, handles_publish s o a, ?_⟩
    by_cases hrecord : o = .objDynamicRabbitmqSend ∧ (s.endpoint o).Unconfirmed a
    · rw [if_pos hrecord]
      obtain ⟨rfl, hrecord⟩ := hrecord
      exact ⟨fun h => h rfl hrecord, fun h _ _ => h⟩
    · rw [if_neg hrecord]
      exact iff_of_true (fun ho h => absurd ⟨ho, h⟩ hrecord) trivial
  | consumer a =>
    exact ⟨.skip, handles_put_same s o (Endpoint.held_consumer _ hr), Iff.rfl⟩
  | exchangeDeclare a =>
    rw [← Option.some.inj hr]
    exact ⟨.skip, handles_put_same s o (Endpoint.held_exchangeDeclare _ a), Iff.rfl⟩
  | queueDeclare a | queueBind a =>
    rw [← Option.some.inj hr]
    exact ⟨.skip, handles_put_same s o (Endpoint.held_queueOperation _ _ a), Iff.rfl⟩
  | disconnectEx a | queueUnbind a | queueDelete a => exact nomatch hname

lemma handles_noteResult (s : Connections) (pc : ManagePc) (ret : ℤ) (running : List ManagePc) :
    ({ s.noteResult pc ret with running := running } : Connections).handles = s.handles := by
  have hnote : (s.noteResult pc ret).handles = s.handles := by
    unfold noteResult
    split
    · split_ifs <;> rfl
    · split_ifs <;> rfl
    · rfl
  exact hnote

lemma advance_cases {s t : Connections} {i : ℕ} {op : ClientOp} (h : s.advance i op = some t) :
    ∃ pc o name r, s.running[i]? = some pc ∧ pc.call = some (o, name) ∧ op.name = some name ∧
      (s.endpoint o).call op = some r ∧ t.handles = (s.put o r.2).handles := by
  simp only [advance, Option.bind_eq_bind, Option.bind_eq_some_iff] at h
  obtain ⟨pc, hpc, ⟨o, name⟩, hcall, h⟩ := h
  by_cases hname : op.name = some name
  · rw [if_neg (not_not_intro hname)] at h
    obtain ⟨r, hr, rfl⟩ := Option.map_eq_some_iff.mp h
    exact ⟨pc, o, name, r, hpc, hcall, hname, hr, handles_noteResult _ _ _ _⟩
  · rw [if_pos hname] at h
    exact nomatch h

lemma keeps_advance_iff {s : Connections} {i : ℕ} {op : ClientOp} {pc : ManagePc}
    {o : ClientObject} {name : CallName} (hpc : s.running[i]? = some pc)
    (hcall : pc.call = some (o, name)) : s.Keeps (.advance i op) ↔ s.KeepsCall o op := by
  constructor
  · exact fun hk => hk pc o name hpc hcall
  · intro hk pc' o' name' hpc' hcall'
    rw [hpc] at hpc'
    obtain rfl := Option.some.inj hpc'
    rw [hcall] at hcall'
    cases hcall'
    exact hk

lemma step_sim {s t : Connections} {act : ManageAction} (h : s.step act = some t) :
    ∃ a, t.handles = s.handles.step a ∧ (s.Keeps act ↔ s.handles.Cond a) := by
  cases act with
  | call f =>
    rw [← Option.some.inj h]
    exact ⟨.skip, rfl, Iff.rfl⟩
  | wake =>
    simp only [step] at h
    split_ifs at h
    rw [← Option.some.inj h]
    exact ⟨.skip, rfl, Iff.rfl⟩
  | disconnectEx a => exact ⟨_, s.handles_disconnectEx a h, Iff.rfl⟩
  | advance i op =>
    obtain ⟨pc, o, name, r, hpc, hcall, hname, hr, ht⟩ := advance_cases h
    obtain ⟨a, hput, hkeeps⟩ := call_sim hname hr
    refine ⟨a, ht.trans hput, ?_⟩
    rw [← hkeeps]
    exact keeps_advance_iff hpc hcall

lemma inv_start : start.handles.Inv where
  held := fun c hc => nomatch hc
  once := fun _ => Nat.zero_le 1
  used := rfl
  known := by
    rintro o c (ho | ho)
    · exact nomatch ho
    · cases o <;> exact nomatch ho
  own := by
    rintro o o' c (ho | ho)
    · exact nomatch ho
    · cases o <;> exact nomatch ho

/-- In every run of the functions and of `disconnet_func`, no connection is lost or destroyed twice
at any time exactly if every step keeps to the condition. -/
theorem kept_iff {as : List ManageAction} {t : Connections}
    (hrun : Run.run step start as = some t) :
    Run.Always step Kept start as ↔ Run.Meets step Keeps start as := by
  refine Run.always_iff_meets (I := fun s => s.handles.Inv) (fun _ h => h.toKept) ?_ ?_ inv_start
    hrun
  · intro s act s' hI hk hs
    obtain ⟨a, hstep, hcond⟩ := step_sim hs
    rw [hstep]
    exact hI.step (hcond.mp hk)
  · intro s act s' hI hk hs
    obtain ⟨a, hstep, hcond⟩ := step_sim hs
    rw [Kept, hstep]
    exact hI.not_kept (fun hc => hk (hcond.mpr hc))

/-- `connet_business`, and every call succeeds. -/
def connetBusiness : List ManageAction :=
  [.call .connetBusiness, .advance 0 (.connect ⟨true, true, 0, .normal⟩),
    .advance 0 (.exchangeDeclare ⟨.normal, .normal⟩),
    .advance 0 (.connect ⟨true, true, 0, .normal⟩),
    .advance 0 (.exchangeDeclare ⟨.normal, .normal⟩)]

def sendUnconfirmed : List ManageAction :=
  [.call .sendBusinessQueue, .advance 1 (.publish ⟨.normal, 0, .normal, .elsewhere⟩)]

/-- The connection is recorded, `disconnet_func` closes and destroys it, and the next `Connect`
replaces it. -/
theorem kept_iff_unconfirmed : Run.Always step Kept start (connetBusiness ++ sendUnconfirmed ++
    [.wake, .disconnectEx ⟨.normal, 0⟩, .advance 1 (.connect ⟨true, true, 0, .normal⟩)]) := by
  refine (kept_iff rfl).mpr ?_
  refine Run.meets_cons trivial rfl (Run.meets_cons ?_ rfl (Run.meets_cons ?_ rfl
    (Run.meets_cons ?_ rfl (Run.meets_cons ?_ rfl (Run.meets_cons trivial rfl
    (Run.meets_cons ?_ rfl (Run.meets_cons trivial rfl (Run.meets_cons ?_ rfl
    (Run.meets_cons ?_ rfl trivial)))))))))
  · exact (keeps_advance_iff rfl rfl).mpr fun c hc => nomatch hc
  · exact (keeps_advance_iff rfl rfl).mpr trivial
  · exact (keeps_advance_iff rfl rfl).mpr fun c hc => nomatch hc
  · exact (keeps_advance_iff rfl rfl).mpr trivial
  · exact (keeps_advance_iff rfl rfl).mpr fun _ _ c hc => nomatch hc
  · exact ⟨1, rfl, rfl⟩
  · refine (keeps_advance_iff rfl rfl).mpr ?_
    rintro c ⟨⟩
    exact Or.inr rfl

/-- The connection for receiving cannot be closed, and the next one takes its place. -/
theorem connection_lost :
    (∃ t, Run.run step start (connetBusiness ++ [.call .restartBusinessQueue,
        .advance 1 (.disconnect ⟨.libraryException, 0⟩),
        .advance 1 (.connect ⟨true, true, 0, .normal⟩)]) = some t ∧ ¬ t.Kept) ∧
      ∃ t, Run.run step start (connetBusiness ++ [.call .sendBusinessQueue,
        .advance 1 (.publish ⟨.normal, -9, .libraryException, .elsewhere⟩), .wake,
        .disconnectEx ⟨.libraryException, 0⟩]) = some t ∧ ¬ t.Kept := by
  constructor
  · refine ⟨_, rfl, ?_⟩
    apply Handles.not_kept_of_lost (c := 0)
    · exact Nat.zero_lt_succ 2
    · rintro o (ho | ho)
      · cases o <;> exact nomatch ho
      · cases o <;> exact nomatch ho
    · exact Nat.zero_ne_one
  · refine ⟨_, rfl, ?_⟩
    intro hk
    exact nomatch hk.used

end Connections

end DHGateway
