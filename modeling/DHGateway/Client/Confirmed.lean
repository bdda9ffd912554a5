import DHGateway.Client.Business
import DHGateway.Client.RabbitmqClient
import DHGateway.Core.Confirms

/-!
# What a confirm of the broker is for

`send_business_queue` over a broker that accepts a message, and confirms it, any time after
`amqp_basic_publish`, on the connection that it came over. `Publish` takes the next confirm on its
connection for its own message; a confirm that comes too late stays on the connection.
-/

namespace DHGateway

/-! ### `Publish` in two halves -/

namespace Endpoint

/-- `Publish` up to the wait for a frame: it has returned, or the message is sent. -/
def basicPublish (s : Endpoint) (channelOpen : Reply) (basicPublish : ℤ) (rpcReply : Reply) :
    Except (ℤ × Endpoint) (ℕ × ℤ × Endpoint) :=
  match s.client.pConn with
  | none => .error (-1, s)
  | some c =>
    match s.openChannel channelOpen with
    | (false, s) => .error (-4, s)
    | (true, s) =>
      if basicPublish ≠ 0 ∧ errorMsg rpcReply ≠ 0 then .error (basicPublish, s.dropChannel)
      else .ok (c, basicPublish, s)

theorem publish_eq (s : Endpoint) (a : PublishAnswers) :
    s.publish a = match s.basicPublish a.channelOpen a.basicPublish a.rpcReply with
      | .error r => r
      | .ok (_, status, s') => s'.handleFrame status a.frame := by
  rw [publish, basicPublish]
  cases hc : s.client.pConn with
  | none => simp
  | some c =>
    cases ho : s.openChannel a.channelOpen with
    | mk ok s' =>
      cases ok with
      | false => simp
      | true =>
        simp only [reduceCtorEq, if_false]
        split_ifs <;> rfl

/-- The call leaves the connection in use as it is. -/
def SameConn (s s' : Endpoint) : Prop :=
  s'.client.pConn = s.client.pConn ∧ s'.amqp.count = s.amqp.count

variable {s s' : Endpoint}

lemma SameConn.refl (s : Endpoint) : s.SameConn s := ⟨rfl, rfl⟩

lemma SameConn.trans {s'' : Endpoint} (h : s.SameConn s') (h' : s'.SameConn s'') :
    s.SameConn s'' :=
  ⟨h'.1.trans h.1, h'.2.trans h.2⟩

lemma sameConn_dropChannel (s : Endpoint) : s.SameConn s.dropChannel :=
  ⟨rfl, Amqp.modify_count ..⟩

lemma sameConn_openChannel (s : Endpoint) (reply : Reply) :
    s.SameConn (s.openChannel reply).2 := by
  rcases s.openChannel_cases reply with ⟨_, h⟩ | ⟨_, _, h⟩ | ⟨_, _, h⟩
  · rw [h]
    exact .refl s
  · rw [h]
    exact sameConn_dropChannel s
  · rw [h]
    exact ⟨rfl, Amqp.modify_count ..⟩

lemma sameConn_exchangeDeclare (s : Endpoint) (a : ChannelAnswers) :
    s.SameConn (s.exchangeDeclare a).2 := by
  have hnext : s.SameConn s.nextChannel := by
    rw [nextChannel]
    split_ifs <;> exact ⟨rfl, rfl⟩
  have hopen := hnext.trans (sameConn_openChannel s.nextChannel a.channelOpen)
  rw [exchangeDeclare]
  cases ho : s.nextChannel.openChannel a.channelOpen with
  | mk ok s' =>
    rw [ho] at hopen
    cases ok with
    | false => exact hopen
    | true =>
      simp only
      split_ifs
      · exact hopen.trans (sameConn_dropChannel s')
      · exact hopen.trans ⟨rfl, Amqp.modify_count ..⟩

lemma sameConn_handleFrame (s : Endpoint) (status : ℤ) (f : Frame) :
    s.SameConn (s.handleFrame status f).2 := by
  cases f <;> first | exact ⟨rfl, rfl⟩ | exact ⟨rfl, Amqp.modify_count ..⟩

lemma sameConn_disconnectEx (s : Endpoint) (a : DisconnectAnswers) :
    s.SameConn (s.disconnectEx a) := by
  rw [disconnectEx]
  split_ifs <;> simp [SameConn, Amqp.channelClose, Amqp.connectionClose, Amqp.destroyConnection]

/-- `Connect` leaves the old connection, and succeeds on a new one only. -/
lemma connect_conn (s : Endpoint) (a : ConnectAnswers) :
    s.amqp.count ≤ (s.connect a).2.amqp.count ∧
    (∀ c, (s.connect a).2.client.pConn = some c →
      c = s.amqp.count ∧ c < (s.connect a).2.amqp.count) := by
  have hnew : ∀ {c}, some s.amqp.count = some c → c = s.amqp.count ∧ c < s.amqp.count + 1 := by
    rintro _ ⟨⟩
    exact ⟨rfl, Nat.lt_succ_self _⟩
  rw [connect]
  split_ifs
  · exact ⟨Nat.le_refl _, nofun⟩
  · exact ⟨Nat.le_succ _, fun _ => hnew⟩
  · exact ⟨Nat.le_succ _, fun _ => hnew⟩
  · exact ⟨Nat.le_succ _, fun _ => hnew⟩
  · exact ⟨Nat.le_succ _, fun _ => hnew⟩

lemma basicPublish_cases (s : Endpoint) (channelOpen : Reply) (status : ℤ) (rpcReply : Reply) :
    (∃ r, s.basicPublish channelOpen status rpcReply = .error r ∧ r.1 ≠ 0 ∧ s.SameConn r.2) ∨
    ∃ c s', s.basicPublish channelOpen status rpcReply = .ok (c, status, s') ∧
      s.client.pConn = some c ∧ s.SameConn s' := by
  have hopen := sameConn_openChannel s channelOpen
  rw [basicPublish]
  cases hc : s.client.pConn with
  | none => exact .inl ⟨_, rfl, by simp, .refl s⟩
  | some c =>
    cases ho : s.openChannel channelOpen with
    | mk ok s' =>
      rw [ho] at hopen
      cases ok with
      | false => exact .inl ⟨_, rfl, by simp, hopen⟩
      | true =>
        simp only
        split_ifs with hfail
        · exact .inl ⟨_, rfl, hfail.1, hopen.trans (sameConn_dropChannel s')⟩
        · exact .inr ⟨c, s', rfl, rfl, hopen⟩

end Endpoint

/-! ### The sender and the broker -/

/-- The business queue, the client that publishes, `objDynamicRabbitmq_send`, and the broker;
`awaiting` is the connection over which `Publish` has sent the current message and the status of
that, while it waits for a frame. -/
structure Confirmed where
  business : Business
  endpoint : Endpoint
  broker : Confirms ℕ String
  awaiting : Option (ℕ × ℤ)

/-- A push, a step of `sent_business_func` outside `send_business_queue`, one of the calls that
this makes, with `Publish` in two halves, a `DisconnectEx` by its thread, or an event of the broker
and the network. -/
inductive ConfirmedAction where
  | sendBusinessQueueEx (msg : String)
  | sentBusinessFunc
  | connect (a : ConnectAnswers)
  | exchangeDeclare (a : ChannelAnswers)
  | basicPublish (channelOpen : Reply) (status : ℤ) (rpcReply : Reply)
  | frame (f : Frame)
  | disconnectEx (a : DisconnectAnswers)
  | broker (e : Confirms.Event)

namespace Confirmed

/-- After `connet_business`, whatever has come of its `Connect` and `ExchangeDeclare`. -/
def start (a : ConnectAnswers) (a' : ChannelAnswers) : Confirmed :=
  ⟨.start, ((Endpoint.start.connect a).2.exchangeDeclare a').2, .new, none⟩

/-- A call of `send_business_queue` has returned. -/
def returned (s : Confirmed) (r : ℤ × Endpoint) : Option Confirmed :=
  (s.business.step (.consumer r.1)).map fun business =>
    { s with business, endpoint := r.2, awaiting := none }

/-- The first half of `Publish`: it has returned, or the message is on its way. -/
def basicPublish (s : Confirmed) (msg : String) :
    Except (ℤ × Endpoint) (ℕ × ℤ × Endpoint) → Option Confirmed
  | .error r => s.returned r
  | .ok (c, status, endpoint) =>
    some { s with endpoint, broker := s.broker.send c msg, awaiting := some (c, status) }

/-- The frame that ends the wait: a confirm only if there is one on the connection. -/
def frame (s : Confirmed) (c : ℕ) (status : ℤ) : Frame → Option Confirmed
  | .ack => (s.broker.read c).bind fun broker =>
    { s with broker }.returned (s.endpoint.handleFrame status .ack)
  | f => s.returned (s.endpoint.handleFrame status f)

def step (s : Confirmed) : ConfirmedAction → Option Confirmed
  | .sendBusinessQueueEx msg => (s.business.step (.sendBusinessQueueEx msg)).map fun business =>
      { s with business }
  | .sentBusinessFunc =>
    -- in `send_business_queue` the thread makes the steps below
    if s.business.current.isSome then none
    else (s.business.step (.consumer 0)).map fun business => { s with business }
  | .connect a =>
    match s.business.consumer with
    | .sending .connect _ => s.returned (s.endpoint.connect a)
    | _ => none
  | .exchangeDeclare a =>
    match s.business.consumer with
    | .sending .exchangeDeclare _ => s.returned (s.endpoint.exchangeDeclare a)
    | _ => none
  | .basicPublish channelOpen status rpcReply =>
    match s.business.consumer, s.awaiting with
    | .sending .publish msg, none | .sending .republish msg, none =>
      s.basicPublish msg (s.endpoint.basicPublish channelOpen status rpcReply)
    | _, _ => none
  -- a wait ends by any frame, a confirm only if there is one to read
  | .frame f => s.awaiting.bind fun (c, status) => s.frame c status f
  | .disconnectEx a =>
    if s.business.disconnetEv = 0 then none
    else some { s with
      business := { s.business with disconnetEv := s.business.disconnetEv - 1 }
      endpoint := s.endpoint.disconnectEx a }
  | .broker e => (s.broker.step e).map fun broker => { s with broker }

/-! ### One step -/

/-- `Publish` is called from two places. -/
def Publishes (pc : SendPc) : Prop := pc = .publish ∨ pc = .republish

inductive Step (s : Confirmed) : Confirmed → Prop
  | push {business : Business} {msg : String}
    (h : s.business.step (.sendBusinessQueueEx msg) = some business) : Step s { s with business }
  | outside {business : Business} (hcur : s.business.current = none)
    (h : s.business.sentBusinessFunc 0 = some business) : Step s { s with business }
  | connect {msg : String} (a : ConnectAnswers) (hc : s.business.consumer = .sending .connect msg) :
    Step s ⟨s.business.sendBusinessQueue .connect msg (s.endpoint.connect a).1,
      (s.endpoint.connect a).2, s.broker, none⟩
  | exchangeDeclare {msg : String} (a : ChannelAnswers)
    (hc : s.business.consumer = .sending .exchangeDeclare msg) :
    Step s ⟨s.business.sendBusinessQueue .exchangeDeclare msg (s.endpoint.exchangeDeclare a).1,
      (s.endpoint.exchangeDeclare a).2, s.broker, none⟩
  | refused {pc : SendPc} {msg : String} {ret : ℤ} {endpoint : Endpoint}
    (hc : s.business.consumer = .sending pc msg) (hpc : Publishes pc) (hret : ret ≠ 0)
    (he : s.endpoint.SameConn endpoint) :
    Step s ⟨s.business.sendBusinessQueue pc msg ret, endpoint, s.broker, none⟩
  | sent {pc : SendPc} {msg : String} {c : ℕ} {status : ℤ} {endpoint : Endpoint}
    (hc : s.business.consumer = .sending pc msg) (hpc : Publishes pc) (hnone : s.awaiting = none)
    (hconn : s.endpoint.client.pConn = some c) (he : s.endpoint.SameConn endpoint) :
    Step s { s with endpoint, broker := s.broker.send c msg, awaiting := some (c, status) }
  | acked {pc : SendPc} {msg : String} {c : ℕ} {status : ℤ} {broker : Confirms ℕ String}
    (hc : s.business.consumer = .sending pc msg) (hpc : Publishes pc)
    (hawait : s.awaiting = some (c, status)) (h : s.broker.read c = some broker) :
    Step s ⟨s.business.sendBusinessQueue pc msg status, s.endpoint, broker, none⟩
  | disconnectEx {n : ℕ} {endpoint : Endpoint} (he : s.endpoint.SameConn endpoint) :
    Step s { s with business := { s.business with disconnetEv := n }, endpoint }
  | broker {e : Confirms.Event} {broker : Confirms ℕ String} (h : s.broker.step e = some broker) :
    Step s { s with broker }

/-- The wait is in a `Publish`. -/
def AwaitsInPublish (s : Confirmed) : Prop :=
  s.awaiting ≠ none → ∃ pc msg, s.business.consumer = .sending pc msg ∧ Publishes pc

variable {s s' : Confirmed}

lemma returned_eq {pc : SendPc} {msg : String} {r : ℤ × Endpoint}
    (hc : s.business.consumer = .sending pc msg) :
    s.returned r = some ⟨s.business.sendBusinessQueue pc msg r.1, r.2, s.broker, none⟩ := by
  rw [returned, Business.step, Business.sentBusinessFunc, hc]
  rfl

lemma frame_cases {pc : SendPc} {msg : String} {c : ℕ} {status : ℤ} {f : Frame}
    (hc : s.business.consumer = .sending pc msg) (hpc : Publishes pc)
    (hawait : s.awaiting = some (c, status)) (h : s.frame c status f = some s') : Step s s' := by
  have hfail : ∀ {f}, (s.endpoint.handleFrame status f).1 ≠ 0 →
      s.returned (s.endpoint.handleFrame status f) = some s' → Step s s' := by
    intro f hret hs
    rw [returned_eq hc] at hs
    rw [← Option.some.inj hs]
    exact .refused hc hpc hret (s.endpoint.sameConn_handleFrame status f)
  cases f with
  | ack =>
    obtain ⟨broker, hread, hs⟩ := Option.bind_eq_some_iff.mp h
    rw [returned_eq (s := { s with broker }) hc] at hs
    rw [← Option.some.inj hs]
    exact .acked hc hpc hawait hread
  | returned => exact hfail (f := .returned) (by simp [Endpoint.handleFrame]) h
  | channelClose => exact hfail (f := .channelClose) (by simp [Endpoint.handleFrame]) h
  | otherMethod => exact hfail (f := .otherMethod) (by simp [Endpoint.handleFrame]) h
  | connectionClose => exact hfail (f := .connectionClose) (by simp [Endpoint.handleFrame]) h
  | elsewhere => exact hfail (f := .elsewhere) (by simp [Endpoint.handleFrame]) h

lemma basicPublish_cases {pc : SendPc} {msg : String} {channelOpen rpcReply : Reply} {status : ℤ}
    (hc : s.business.consumer = .sending pc msg) (hpc : Publishes pc) (hnone : s.awaiting = none)
    (h : s.basicPublish msg (s.endpoint.basicPublish channelOpen status rpcReply) = some s') :
    Step s s' := by
  rcases s.endpoint.basicPublish_cases channelOpen status rpcReply with
    ⟨r, hr, hret, he⟩ | ⟨c, endpoint, hr, hconn, he⟩
  · rw [hr, basicPublish, returned_eq hc] at h
    rw [← Option.some.inj h]
    exact .refused hc hpc hret he
  · rw [hr, basicPublish] at h
    rw [← Option.some.inj h]
    exact .sent hc hpc hnone hconn he

lemma step_cases {a : ConfirmedAction} (hinv : s.AwaitsInPublish) (h : s.step a = some s') :
    Step s s' := by
  cases a with
  | sendBusinessQueueEx msg =>
    obtain ⟨business, hb, rfl⟩ := Option.map_eq_some_iff.mp h
    exact .push hb
  | sentBusinessFunc =>
    rw [step] at h
    split_ifs at h with hcur
    obtain ⟨business, hb, rfl⟩ := Option.map_eq_some_iff.mp h
    exact .outside (Option.not_isSome_iff_eq_none.mp hcur) hb
  | connect a =>
    rw [step] at h
    split at h
    · rename_i msg hc
      rw [returned_eq hc] at h
      exact Option.some.inj h ▸ .connect a hc
    · exact nomatch h
  | exchangeDeclare a =>
    rw [step] at h
    split at h
    · rename_i msg hc
      rw [returned_eq hc] at h
      exact Option.some.inj h ▸ .exchangeDeclare a hc
    · exact nomatch h
  | basicPublish channelOpen status rpcReply =>
    rw [step] at h
    split at h
    · rename_i msg hc hnone
      exact basicPublish_cases hc (.inl rfl) hnone h
    · rename_i msg hc hnone
      exact basicPublish_cases hc (.inr rfl) hnone h
    · exact nomatch h
  -- that `Publish` waits tells where `send_business_queue` is
  | frame f =>
    obtain ⟨⟨c, status⟩, hawait, hf⟩ := Option.bind_eq_some_iff.mp h
    obtain ⟨pc, msg, hc, hpc⟩ := hinv (by simp [hawait])
    exact frame_cases hc hpc hawait hf
  | disconnectEx a =>
    rw [step] at h
    split_ifs at h
    rw [← Option.some.inj h]
    exact .disconnectEx (s.endpoint.sameConn_disconnectEx a)
  | broker e =>
    obtain ⟨broker, hb, rfl⟩ := Option.map_eq_some_iff.mp h
    exact .broker hb

/-! ### A confirm that is read is for the message that was sent -/

/-- The next `Publish` will be on the connection there is. -/
def Reuses (b : Business) : Prop :=
  match b.consumer with
  | .sending .connect _ => False
  | .sending _ _ => True
  | _ => b.republic = false

lemma reuses_of_publishes {b : Business} {pc : SendPc} {msg : String}
    (hc : b.consumer = .sending pc msg) (hpc : Publishes pc) : Reuses b := by
  rw [Reuses, hc]
  rcases hpc with rfl | rfl <;> trivial

/-- The messages whose confirm is on the connection in use. -/
def acked (s : Confirmed) : List String :=
  match s.endpoint.client.pConn with
  | none => []
  | some c => s.broker.acked c

/-- What was published was accepted, in this order; the connections to come have nothing on them; a
`Publish` starts on a connection with nothing on it, and waits with its own message at most. -/
structure Inv (s : Confirmed) : Prop where
  accepted : (s.business.published ++ s.acked).Sublist s.broker.accepted
  fresh : ∀ c, s.endpoint.amqp.count ≤ c → s.broker.pending c = []
  current : ∀ c, s.endpoint.client.pConn = some c → c < s.endpoint.amqp.count
  republic : ∀ pc msg, s.business.consumer = .sending pc msg → pc ≠ .publish →
    s.business.republic = true
  settled : s.awaiting = none → Reuses s.business →
    ∀ c, s.endpoint.client.pConn = some c → s.broker.pending c = []
  awaiting : ∀ c status, s.awaiting = some (c, status) → s.endpoint.client.pConn = some c ∧
    ∃ pc msg, s.business.consumer = .sending pc msg ∧ Publishes pc ∧
      (s.broker.pending c).Subperm [msg]

lemma Inv.awaitsInPublish (h : s.Inv) : s.AwaitsInPublish := by
  intro hne
  obtain ⟨⟨c, status⟩, hawait⟩ := Option.ne_none_iff_exists'.mp hne
  obtain ⟨_, pc, msg, hc, hpc, _⟩ := h.awaiting c status hawait
  exact ⟨pc, msg, hc, hpc⟩

lemma pending_new (c : ℕ) : (Confirms.new : Confirms ℕ String).pending c = [] := rfl

lemma inv_start (a : ConnectAnswers) (a' : ChannelAnswers) : (start a a').Inv := by
  have hconn := Endpoint.start.connect_conn a
  have hsame := (Endpoint.start.connect a).2.sameConn_exchangeDeclare a'
  refine ⟨?_, fun c _ => pending_new c, fun c hc => ?_, nofun, fun _ _ c _ => pending_new c, nofun⟩
  · show ([] ++ (start a a').acked).Sublist []
    rw [acked]
    split <;> exact List.Sublist.refl []
  · show c < ((Endpoint.start.connect a).2.exchangeDeclare a').2.amqp.count
    rw [hsame.2]
    exact (hconn.2 c (hsame.1 ▸ hc)).2

lemma Inv.withBusiness (h : s.Inv) {business : Business}
    (hpublished : business.published = s.business.published)
    (hrepublic : ∀ pc msg, business.consumer = .sending pc msg → pc ≠ .publish →
      business.republic = true)
    (hreuses : s.awaiting = none → Reuses business → Reuses s.business)
    (hconsumer : s.awaiting ≠ none → business.consumer = s.business.consumer) :
    Inv { s with business } := by
  refine ⟨hpublished ▸ h.accepted, h.fresh, h.current, hrepublic, fun hnone hr => ?_,
    fun c status hawait => ?_⟩
  · exact h.settled hnone (hreuses hnone hr)
  · rw [hconsumer (by simp [show s.awaiting = some (c, status) from hawait])]
    exact h.awaiting c status hawait

lemma Inv.withEndpoint (h : s.Inv) {endpoint : Endpoint} (he : s.endpoint.SameConn endpoint) :
    Inv { s with endpoint } := by
  refine ⟨?_, fun c hc => ?_, fun c hc => ?_, h.republic, fun hnone hr c hc => ?_,
    fun c status hawait => ?_⟩
  · show (s.business.published ++ match endpoint.client.pConn with
      | none => []
      | some c => s.broker.acked c).Sublist s.broker.accepted
    rw [he.1]
    exact h.accepted
  · exact h.fresh c (he.2 ▸ hc)
  · rw [he.2]
    exact h.current c (he.1 ▸ hc)
  · exact h.settled hnone hr c (he.1 ▸ hc)
  · rw [he.1]
    exact h.awaiting c status hawait

lemma Inv.withBroker (h : s.Inv) {e : Confirms.Event} {broker : Confirms ℕ String}
    (hb : s.broker.step e = some broker) : Inv { s with broker } := by
  have hnil : ∀ {c}, s.broker.pending c = [] → broker.pending c = [] := by
    intro c hc
    exact List.subperm_nil.mp (hc ▸ Confirms.pending_step hb)
  refine ⟨?_, fun c hc => hnil (h.fresh c hc), h.current, h.republic,
    fun hnone hr c hc => hnil (h.settled hnone hr c hc), fun c status hawait => ?_⟩
  · have haccepted := h.accepted
    show (s.business.published ++ match s.endpoint.client.pConn with
      | none => []
      | some c => broker.acked c).Sublist broker.accepted
    rw [acked] at haccepted
    cases hconn : s.endpoint.client.pConn with
    | none =>
      rw [hconn] at haccepted
      exact haccepted.trans (Confirms.accepted_step hb)
    | some c =>
      rw [hconn] at haccepted
      exact Confirms.acked_step hb haccepted
  · obtain ⟨hconn, pc, msg, hc, hpc, hlone⟩ := h.awaiting c status hawait
    exact ⟨hconn, pc, msg, hc, hpc, (Confirms.pending_step hb).trans hlone⟩

lemma failed_business {b : Business} {pc : SendPc} (msg : String) {ret : ℤ} (hret : ret ≠ 0)
    (hrepublic : pc ≠ .publish → b.republic = true) :
    (b.sendBusinessQueue pc msg ret).published = b.published ∧
      (b.sendBusinessQueue pc msg ret).republic = true ∧
      ¬ Reuses (b.sendBusinessQueue pc msg ret) := by
  cases pc with
  | publish => simp [Business.sendBusinessQueue, hret, Reuses]
  | connect | exchangeDeclare | republish =>
    have hb : b.republic = true := hrepublic (by simp)
    simp [Business.sendBusinessQueue, hret, Reuses, hb]

/-- A call that failed, after which the next `Publish` is not on this connection. -/
lemma Inv.failed (h : s.Inv) {pc : SendPc} {msg : String} {ret : ℤ} (hret : ret ≠ 0)
    (hc : s.business.consumer = .sending pc msg) :
    Inv ⟨s.business.sendBusinessQueue pc msg ret, s.endpoint, s.broker, none⟩ := by
  obtain ⟨hpublished, hrepublic, hreuses⟩ := failed_business msg hret (h.republic pc msg hc)
  refine ⟨?_, h.fresh, h.current, fun _ _ _ _ => hrepublic, fun _ hr => absurd hr hreuses, by simp⟩
  show (Business.published _ ++ s.acked).Sublist _
  rw [hpublished]
  exact h.accepted

lemma Inv.connect (h : s.Inv) {msg : String} (a : ConnectAnswers)
    (hc : s.business.consumer = .sending .connect msg) :
    Inv ⟨s.business.sendBusinessQueue .connect msg (s.endpoint.connect a).1,
      (s.endpoint.connect a).2, s.broker, none⟩ := by
  obtain ⟨hcount, hconn⟩ := s.endpoint.connect_conn a
  have hnew : ∀ c, (s.endpoint.connect a).2.client.pConn = some c → s.broker.pending c = [] :=
    fun c hc => h.fresh c (hconn c hc).1.ge
  have hrepublic := h.republic .connect msg hc (by simp)
  have hbusiness : ∀ ret, (s.business.sendBusinessQueue .connect msg ret).published =
      s.business.published ∧ (s.business.sendBusinessQueue .connect msg ret).republic = true := by
    intro ret
    rw [Business.sendBusinessQueue]
    split_ifs <;> exact ⟨rfl, hrepublic⟩
  refine ⟨?_, fun c hc => h.fresh c (hcount.trans hc), fun c hc => (hconn c hc).2,
    fun _ _ _ _ => (hbusiness _).2, fun _ _ => hnew, by simp⟩
  -- the new connection has a number that nothing was sent on
  have hacked : acked ⟨s.business.sendBusinessQueue .connect msg (s.endpoint.connect a).1,
      (s.endpoint.connect a).2, s.broker, none⟩ = [] := by
    rw [acked]
    cases hp : (s.endpoint.connect a).2.client.pConn with
    | none => rfl
    | some c => exact List.sublist_nil.mp (hnew c hp ▸ Confirms.acked_sublist_pending)
  rw [hacked, (hbusiness _).1, List.append_nil]
  exact (List.sublist_append_left _ _).trans h.accepted

lemma Inv.exchangeDeclare (h : s.Inv) {msg : String} (ret : ℤ)
    (hc : s.business.consumer = .sending .exchangeDeclare msg) :
    Inv ⟨s.business.sendBusinessQueue .exchangeDeclare msg ret, s.endpoint, s.broker, none⟩ := by
  -- a successful call goes on to `Publish` on the connection that `Connect` has made
  by_cases hret : ret = 0
  · have hnone : s.awaiting = none := by
      by_contra hne
      obtain ⟨pc, msg', hc', rfl | rfl⟩ := h.awaitsInPublish hne <;>
        exact absurd (hc.symm.trans hc') (by simp)
    have hreuses : Reuses s.business := by
      rw [Reuses, hc]
      trivial
    have hrepublic := h.republic .exchangeDeclare msg hc (by simp)
    rw [Business.sendBusinessQueue, if_neg (not_not_intro hret)]
    exact ⟨h.accepted, h.fresh, h.current, fun _ _ _ _ => hrepublic,
      fun _ _ => h.settled hnone hreuses, by simp⟩
  · exact h.failed hret hc

/-- The message is sent on a connection with nothing on it. -/
lemma Inv.sent (h : s.Inv) {pc : SendPc} {msg : String} {c : ℕ} (status : ℤ)
    (hc : s.business.consumer = .sending pc msg) (hpc : Publishes pc) (hnone : s.awaiting = none)
    (hconn : s.endpoint.client.pConn = some c) :
    Inv { s with broker := s.broker.send c msg, awaiting := some (c, status) } := by
  have hreuses := reuses_of_publishes hc hpc
  refine ⟨h.accepted, fun c' hc' => ?_, h.current, h.republic, nofun, ?_⟩
  · have hne : c ≠ c' := (Nat.lt_of_lt_of_le (h.current c hconn) hc').ne
    rw [Confirms.pending_send_ne hne]
    exact h.fresh c' hc'
  · rintro _ _ ⟨⟩
    refine ⟨hconn, pc, msg, hc, hpc, ?_⟩
    have hperm := Confirms.pending_send_self (b := s.broker) (c := c) msg
    rw [h.settled hnone hreuses c hconn] at hperm
    exact hperm.subperm

/-- The confirm that `Publish` reads is for its message, and was the last thing on the
connection. -/
lemma Inv.acked (h : s.Inv) {pc : SendPc} {msg : String} {c : ℕ} {status : ℤ}
    {broker : Confirms ℕ String} (hc : s.business.consumer = .sending pc msg)
    (hpc : Publishes pc) (hawait : s.awaiting = some (c, status))
    (hread : s.broker.read c = some broker) :
    Inv ⟨s.business.sendBusinessQueue pc msg status, s.endpoint, broker, none⟩ := by
  obtain ⟨hconn, pc', msg', hc', _, hlone⟩ := h.awaiting c status hawait
  cases hc.symm.trans hc'
  obtain ⟨hacked, hpending⟩ := Confirms.read_lone hread hlone
  obtain ⟨_, _, _, haccepted⟩ := Confirms.read_eq_some hread
  have hnil : ∀ c', s.broker.pending c' = [] → broker.pending c' = [] := by
    intro c' hc'
    exact List.subperm_nil.mp (hc' ▸ Confirms.read_pending hread)
  -- the confirm moves from the connection to the published messages
  have hsub : (s.business.published ++ msg :: broker.acked c).Sublist broker.accepted := by
    have hsub := h.accepted
    rw [Confirmed.acked, hconn] at hsub
    rw [← hacked, haccepted]
    exact hsub
  -- as if the confirm were read and dropped
  have hread : Inv ⟨s.business, s.endpoint, broker, none⟩ := by
    refine ⟨?_, fun c' hc' => hnil c' (h.fresh c' hc'), h.current, h.republic, fun _ _ c' hc' => ?_,
      nofun⟩
    · rw [Confirmed.acked, hconn]
      exact (List.Sublist.append_left (List.sublist_cons_self _ _) _).trans hsub
    · cases hconn.symm.trans hc'
      exact hpending
  -- the message is published only if `amqp_basic_publish` returned `0`
  by_cases hstatus : status = 0
  · have hdelivered : s.business.sendBusinessQueue pc msg status = s.business.delivered msg := by
      rcases hpc with rfl | rfl <;> exact if_neg (not_not_intro hstatus)
    rw [hdelivered]
    refine ⟨?_, hread.fresh, hread.current, nofun, fun _ _ c' hc' => ?_, nofun⟩
    · rw [Confirmed.acked, hconn]
      show (s.business.published ++ [msg] ++ broker.acked c).Sublist broker.accepted
      rw [List.append_assoc]
      exact hsub
    · cases hconn.symm.trans hc'
      exact hpending
  · exact hread.failed hstatus hc

/-- Outside `send_business_queue`, the next message goes to the connection there is unless
`_republic` is set. -/
lemma outside_business {b b' : Business} (hcur : b.current = none)
    (h : b.sentBusinessFunc 0 = some b') :
    b'.published = b.published ∧ b'.republic = b.republic ∧
      (∀ pc msg, b'.consumer = .sending pc msg →
        pc = if b.republic then .connect else .publish) := by
  rw [Business.sentBusinessFunc] at h
  cases hc : b.consumer with
  | testEmpty =>
    simp only [hc, Option.some.injEq] at h
    rw [← h]
    refine ⟨rfl, rfl, fun pc msg hpc => ?_⟩
    simp only at hpc
    split_ifs at hpc
  | testNonempty =>
    simp only [hc, Option.some.injEq] at h
    rw [← h]
    refine ⟨rfl, rfl, fun pc msg hpc => ?_⟩
    simp only at hpc
    split_ifs at hpc
  | wait =>
    simp only [hc] at h
    split_ifs at h
    rw [← Option.some.inj h]
    exact ⟨rfl, rfl, by simp⟩
  -- here `_republic` decides where `send_business_queue` begins
  | lock =>
    simp only [hc] at h
    split at h
    · simp at h
    · rw [← Option.some.inj h]
      refine ⟨rfl, rfl, fun pc msg hpc => ?_⟩
      cases hpc
      rfl
  | sending pc msg => exact absurd hcur (by simp [Business.current, hc])

/-- Where `_republic` is set, a message starts with a new connection. -/
lemma republic_of_reuses {b : Business} (hr : Reuses b) (hpc : ∀ pc msg,
    b.consumer = .sending pc msg → pc = if b.republic then .connect else .publish) :
    b.republic = false := by
  rw [Reuses] at hr
  cases hc : b.consumer with
  | testEmpty | testNonempty | wait | lock =>
    simp only [hc] at hr
    exact hr
  | sending pc msg =>
    by_contra hne
    have hconnect : pc = .connect := by
      rw [hpc pc msg hc, if_pos (Bool.eq_true_of_not_eq_false hne)]
    simp [hc, hconnect] at hr

lemma Inv.outside (h : s.Inv) {business : Business} (hcur : s.business.current = none)
    (hs : s.business.sentBusinessFunc 0 = some business) : Inv { s with business } := by
  obtain ⟨hpublished, hrepublic, hpc⟩ := outside_business hcur hs
  have hnot : ∀ pc msg, s.business.consumer ≠ .sending pc msg := by
    intro pc msg hc
    simp [Business.current, hc] at hcur
  apply h.withBusiness hpublished
  · intro pc msg hc hne
    by_contra hr
    rw [hrepublic] at hr
    exact hne ((hpc pc msg hc).trans (if_neg hr))
  · -- a message that was just taken begins with `Publish` only if `_republic` is not set
    intro _ hr
    have hfalse := republic_of_reuses hr (hrepublic ▸ hpc)
    rw [hrepublic] at hfalse
    rw [Reuses]
    split
    · exact absurd ‹_› (hnot _ _)
    · trivial
    · exact hfalse
  · intro hne
    obtain ⟨pc, msg, hc, _⟩ := h.awaitsInPublish hne
    exact absurd hc (hnot pc msg)

lemma Inv.push (h : s.Inv) {business : Business} {msg : String}
    (hs : s.business.step (.sendBusinessQueueEx msg) = some business) :
    Inv { s with business } := by
  rw [Business.step] at hs
  split_ifs at hs
  rw [← Option.some.inj hs]
  exact h.withBusiness rfl h.republic (fun _ hr => hr) (fun _ => rfl)

lemma Inv.step (h : s.Inv) (hs : Step s s') : s'.Inv := by
  cases hs with
  | push hb => exact h.push hb
  | outside hcur hb => exact h.outside hcur hb
  | connect a hc => exact h.connect a hc
  | exchangeDeclare a hc =>
    exact (h.exchangeDeclare _ hc).withEndpoint (s.endpoint.sameConn_exchangeDeclare a)
  | refused hc hpc hret he => exact (h.failed hret hc).withEndpoint he
  | sent hc hpc hnone hconn he => exact (h.sent _ hc hpc hnone hconn).withEndpoint he
  | acked hc hpc hawait hread => exact h.acked hc hpc hawait hread
  | @disconnectEx n endpoint he =>
    have hbusiness : Inv { s with business := { s.business with disconnetEv := n } } :=
      h.withBusiness rfl h.republic (fun _ hr => hr) (fun _ => rfl)
    exact hbusiness.withEndpoint he
  | broker hb => exact h.withBroker hb

lemma inv_of_run {a : ConnectAnswers} {a' : ChannelAnswers} {as : List ConfirmedAction}
    (hrun : Run.run step (start a a') as = some s) : s.Inv :=
  Run.reachable_invariant (fun _ _ _ h hs => h.step (step_cases h.awaitsInPublish hs))
    (inv_start a a') hrun

/-- A confirm that is read is never one of an earlier message: `Publish` sends over a connection on
which nothing of an earlier message is left, neither the message nor a confirm, and a confirm that
can be read while it waits is the only one there, and that of the current message. -/
structure ReadsOwn (s : Confirmed) : Prop where
  unsent : ∀ pc msg c, s.business.consumer = .sending pc msg → Publishes pc → s.awaiting = none →
    s.endpoint.client.pConn = some c → s.broker.pending c = []
  read : ∀ c status broker, s.awaiting = some (c, status) → s.broker.read c = some broker →
    ∃ msg, s.business.current = some msg ∧ s.broker.acked c = [msg] ∧ broker.pending c = []

lemma Inv.readsOwn (h : s.Inv) : s.ReadsOwn := by
  constructor
  case unsent =>
    intro pc msg c hc hpc hnone hconn
    exact h.settled hnone (reuses_of_publishes hc hpc) c hconn
  case read =>
    intro c status broker hawait hread
    obtain ⟨_, pc, msg, hc, _, hlone⟩ := h.awaiting c status hawait
    obtain ⟨hacked, hpending⟩ := Confirms.read_lone hread hlone
    have hnil : broker.acked c = [] :=
      List.sublist_nil.mp (hpending ▸ Confirms.acked_sublist_pending)
    exact ⟨msg, by simp [Business.current, hc], hnil ▸ hacked, hpending⟩

/-- Whatever the broker, the network and the thread of `DisconnectEx` do in between: for each
message for which a `Publish` of the business queue returned `0` there is an acceptance of it by
the broker, in the same order. The confirms that are read are never those of an earlier message. -/
theorem published_accepted {a : ConnectAnswers} {a' : ChannelAnswers} {as : List ConfirmedAction}
    {s : Confirmed} (hrun : Run.run step (start a a') as = some s) :
    s.business.published.Sublist s.broker.accepted ∧ s.ReadsOwn :=
  ⟨(List.sublist_append_left _ _).trans (inv_of_run hrun).accepted, (inv_of_run hrun).readsOwn⟩

def connected : ConnectAnswers := ⟨true, true, 0, .normal⟩

def declared : ChannelAnswers := ⟨.normal, .normal⟩

/-- The first confirm of a message comes when the sender has given it up and reconnected; the second
one is read. -/
def lateConfirm : List ConfirmedAction :=
  [.sendBusinessQueueEx "a", .sentBusinessFunc, .sentBusinessFunc, .sentBusinessFunc,
    .basicPublish .normal 0 .normal, .frame .elsewhere, .broker (.accept 0), .connect connected,
    .exchangeDeclare declared, .basicPublish .normal 0 .normal, .broker (.accept 0), .frame .ack]

theorem published_accepted_late :
    ∃ s, Run.run step (start connected declared) lateConfirm = some s ∧
      s.business.published = ["a"] ∧ s.broker.accepted = ["a", "a"] ∧
      s.business.published.Sublist s.broker.accepted ∧ s.ReadsOwn := by
  have hrun : Run.run step (start connected declared) lateConfirm = some _ := rfl
  exact ⟨_, hrun, rfl, rfl, published_accepted hrun⟩

/-! ### How often a message reaches the broker -/

def tries : SendPc → ℕ
  | .publish => 2
  | .connect | .exchangeDeclare | .republish => 1

/-- How often a message may yet be sent by the call of `send_business_queue` that there is. -/
def triesLeft (consumer : ConsumerPc) (awaiting : Bool) (msg : String) : ℕ :=
  match consumer with
  | .sending pc msg' => if msg' = msg then tries pc - awaiting.toNat else 0
  | _ => 0

def allowance (s : Confirmed) (msg : String) : ℕ :=
  2 * s.business.businessMsgList.count msg +
    triesLeft s.business.consumer s.awaiting.isSome msg

/-- A message was pushed for every two copies of it. -/
def Bounded (s : Confirmed) : Prop :=
  ∀ msg, s.broker.copies msg + s.allowance msg ≤ 2 * s.business.pushed.count msg

lemma bounded_start (a : ConnectAnswers) (a' : ChannelAnswers) : (start a a').Bounded :=
  fun _ => Nat.le_refl 0

/-- A call has returned: a `Publish` uses up one of the tries, the others do not add any. -/
lemma triesLeft_returned (b : Business) (pc : SendPc) (msg : String) (ret : ℤ) (msg' : String) :
    triesLeft (b.sendBusinessQueue pc msg ret).consumer false msg' ≤
      triesLeft (.sending pc msg) (decide (pc = .publish ∨ pc = .republish)) msg' := by
  by_cases hret : ret = 0 <;> by_cases hmsg : msg = msg' <;>
    cases pc <;> simp [Business.sendBusinessQueue, Business.delivered, triesLeft, tries, hret, hmsg]

lemma triesLeft_le (consumer : ConsumerPc) (awaiting : Bool) (msg : String) :
    triesLeft consumer awaiting msg ≤ triesLeft consumer false msg := by
  rw [triesLeft.eq_def, triesLeft.eq_def]
  split
  · split_ifs
    · exact Nat.sub_le _ _
    · exact Nat.le_refl 0
  · exact Nat.le_refl 0

lemma Bounded.returned (h : s.Bounded) {pc : SendPc} {msg : String} (ret : ℤ)
    {endpoint : Endpoint} {broker : Confirms ℕ String}
    (hc : s.business.consumer = .sending pc msg)
    (hawait : s.awaiting ≠ none → Publishes pc)
    (hcopies : ∀ m, broker.copies m ≤ s.broker.copies m) :
    Bounded ⟨s.business.sendBusinessQueue pc msg ret, endpoint, broker, none⟩ := by
  intro m
  have hm := h m
  obtain ⟨hpushed, hlist, _⟩ := s.business.sendBusinessQueue_cases pc msg ret
  have htries := triesLeft_returned s.business pc msg ret m
  have hle : triesLeft (.sending pc msg) (decide (pc = .publish ∨ pc = .republish)) m ≤
      triesLeft s.business.consumer s.awaiting.isSome m := by
    rw [hc]
    cases ha : s.awaiting with
    | none => exact triesLeft_le _ _ _
    | some w =>
      have hpc : pc = .publish ∨ pc = .republish := hawait (by simp [ha])
      simp [hpc]
  have hcopies := hcopies m
  simp only [allowance, hlist, hpushed, Option.isSome_none] at hm ⊢
  omega

/-- A message that is sent uses up a try. -/
lemma Bounded.sent (h : s.Bounded) {pc : SendPc} {msg : String} {c : ℕ} {status : ℤ}
    {endpoint : Endpoint} (hc : s.business.consumer = .sending pc msg) (hnone : s.awaiting = none) :
    Bounded { s with endpoint, broker := s.broker.send c msg, awaiting := some (c, status) } := by
  intro m
  have hm := h m
  have htries : 1 ≤ tries pc := by cases pc <;> decide
  simp only [allowance, hc, hnone, Confirms.copies_send, triesLeft, Option.isSome_none,
    Option.isSome_some, Bool.toNat_false, Bool.toNat_true] at hm ⊢
  by_cases hmsg : msg = m
  · simp only [hmsg, if_true, List.count_singleton_self] at hm ⊢
    omega
  · simp only [hmsg, if_false, List.count_singleton, beq_iff_eq] at hm ⊢
    omega

lemma triesLeft_of_current {b : Business} (hcur : b.current = none) (awaiting : Bool)
    (m : String) : triesLeft b.consumer awaiting m = 0 := by
  cases hc : b.consumer with
  | sending pc msg => simp [Business.current, hc] at hcur
  | _ => rfl

/-- A message that is taken from the list may be sent no more often than before. -/
lemma count_outside {b b' : Business} (h : b.sentBusinessFunc 0 = some b')
    (hcur : b.current = none) (awaiting : Bool) (m : String) :
    b'.pushed = b.pushed ∧ 2 * b'.businessMsgList.count m + triesLeft b'.consumer awaiting m ≤
      2 * b.businessMsgList.count m := by
  rcases Business.sentBusinessFunc_cases h with ⟨_, hcur', hpushed, _, hlist⟩ |
    ⟨_, msg, hcur', hpushed, _, hlist⟩ | ⟨pc, msg, hc, _⟩
  · rw [hlist, triesLeft_of_current hcur']
    exact ⟨hpushed, Nat.le_refl _⟩
  · -- the list loses the two tries that the message has now
    refine ⟨hpushed, ?_⟩
    have htwo : triesLeft b'.consumer awaiting m ≤ if msg = m then 2 else 0 := by
      cases hc : b'.consumer with
      | sending pc msg' =>
        obtain rfl : msg' = msg := by simpa [Business.current, hc] using hcur'
        have htries : tries pc ≤ 2 := by cases pc <;> decide
        rw [triesLeft]
        split_ifs
        · exact (Nat.sub_le _ _).trans htries
        · exact Nat.le_refl 0
      | _ => exact Nat.zero_le _
    rw [hlist, List.count_cons]
    simp only [beq_iff_eq]
    split_ifs at htwo ⊢ <;> omega
  · simp [Business.current, hc] at hcur

lemma Bounded.push (h : s.Bounded) {business : Business} {msg : String}
    (hs : s.business.step (.sendBusinessQueueEx msg) = some business) :
    Bounded { s with business } := by
  intro m
  have hm := h m
  rw [Business.step] at hs
  split_ifs at hs
  rw [← Option.some.inj hs]
  simp only [allowance, List.count_append] at hm ⊢
  omega

lemma Bounded.outside (h : s.Bounded) {business : Business} (hcur : s.business.current = none)
    (hs : s.business.sentBusinessFunc 0 = some business) : Bounded { s with business } := by
  intro m
  have hm := h m
  obtain ⟨hpushed, hcount⟩ := count_outside hs hcur s.awaiting.isSome m
  simp only [allowance, hpushed] at hm ⊢
  omega

lemma Bounded.step (h : s.Bounded) (hinv : s.AwaitsInPublish) (hs : Step s s') : s'.Bounded := by
  have hawait : ∀ {pc msg}, s.business.consumer = .sending pc msg → s.awaiting ≠ none →
      Publishes pc := by
    intro pc msg hc hne
    obtain ⟨pc', msg', hc', hpc⟩ := hinv hne
    cases hc.symm.trans hc'
    exact hpc
  cases hs with
  | push hb => exact h.push hb
  | outside hcur hb => exact h.outside hcur hb
  | connect a hc => exact h.returned _ hc (hawait hc) (fun _ => Nat.le_refl _)
  | exchangeDeclare a hc => exact h.returned _ hc (hawait hc) (fun _ => Nat.le_refl _)
  | refused hc hpc hret he => exact h.returned _ hc (hawait hc) (fun _ => Nat.le_refl _)
  | sent hc hpc hnone hconn he => exact h.sent hc hnone
  | acked hc hpc hwait hread =>
    obtain ⟨_, _, htransit, haccepted⟩ := Confirms.read_eq_some hread
    refine h.returned _ hc (hawait hc) (fun m => ?_)
    rw [Confirms.copies, Confirms.copies, htransit, haccepted]
  | disconnectEx he => exact h
  | broker hb => exact fun m => (Nat.add_le_add_right (Confirms.copies_step hb) _).trans (h m)

/-- However late the broker accepts what it gets, it accepts a message at most twice for each time
that it was pushed to the business queue, and none that was not pushed. -/
theorem accepted_at_most_twice {a : ConnectAnswers} {a' : ChannelAnswers}
    {as : List ConfirmedAction} {s : Confirmed} (hrun : Run.run step (start a a') as = some s)
    (msg : String) : s.broker.accepted.count msg ≤ 2 * s.business.pushed.count msg := by
  have hbounded : s.Inv ∧ s.Bounded := by
    refine Run.reachable_invariant (I := fun s => s.Inv ∧ s.Bounded) (fun s a s' h hs => ?_)
      ⟨inv_start a a', bounded_start a a'⟩ hrun
    have hstep := step_cases h.1.awaitsInPublish hs
    exact ⟨h.1.step hstep, h.2.step h.1.awaitsInPublish hstep⟩
  have hcount := hbounded.2 msg
  rw [Confirms.copies] at hcount
  omega

theorem accepted_at_most_twice_late :
    ∃ s, Run.run step (start connected declared) lateConfirm = some s ∧
      s.broker.accepted.count "a" = 2 ∧
      s.broker.accepted.count "a" ≤ 2 * s.business.pushed.count "a" := by
  have hrun : Run.run step (start connected declared) lateConfirm = some _ := rfl
  exact ⟨_, hrun, rfl, accepted_at_most_twice hrun "a"⟩

end Confirmed

end DHGateway
