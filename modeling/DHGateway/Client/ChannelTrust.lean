import DHGateway.Client.RabbitmqClient

/-!
# The channel pointer

While `channel_id` is not null, a client publishes on the channel `m_iChannel` of `m_pConn` and
expects confirmations. Only `ExchangeDeclare` turns them on; every other operation opens a channel
without them, and a `Connect` that fails keeps the channel of the connection before.
-/

namespace DHGateway

/-- `Connect` returns `0`. -/
def ConnectAnswers.Succeed (a : ConnectAnswers) : Prop :=
  a.newConnection = true ∧ a.tcpSocketNew = true ∧ 0 ≤ a.socketOpen ∧ errorMsg a.login = 0

/-- The message cannot be sent, and the library gives an error for it. -/
def PublishAnswers.Fail (a : PublishAnswers) : Prop :=
  a.basicPublish ≠ 0 ∧ errorMsg a.rpcReply ≠ 0

def Frame.Closes (f : Frame) : Prop :=
  f = .channelClose ∨ f = .connectionClose

/-- What ends the loop of `Consumer` early. -/
def Consumed.Fail (serial : String) (filterate : Bool) : Consumed → Prop
  | .failed _ _ => True
  | .message doc nack => (filterate = true ∧ isMySerialNum serial doc = false) ∧ nack ≠ 0

namespace Endpoint

def step (s : Endpoint) (op : ClientOp) : Option Endpoint :=
  (s.call op).map Prod.snd

/-- If there is a channel, then it is an open one of a logged-in connection, and its messages are
confirmed. -/
def Trusted (s : Endpoint) : Prop :=
  s.client.channelId = true →
    ∃ c, s.client.pConn = some c ∧ (s.amqp.connection c).Confirms s.client.iChannel

def LoggedIn (s : Endpoint) : Prop :=
  ∃ c, s.client.pConn = some c ∧ (s.amqp.connection c).loggedIn = true

/-- A call that leaves the pointer alone, when it is right: it has a channel already, or does not
get one, or turns confirmations on. -/
def Keeps (s : Endpoint) : ClientOp → Prop
  | .connect a => s.client.channelId = false ∨ a.Succeed
  | .exchangeDeclare a =>
    s.client.channelId = true ∨ s.LoggedIn ∨ errorMsg a.channelOpen ≠ 0 ∨ errorMsg a.reply ≠ 0
  | .queueDeclare a | .queueBind a | .queueUnbind a =>
    s.client.channelId = true ∨ s.client.pConn = none ∨ errorMsg a.channelOpen ≠ 0 ∨
      errorMsg a.reply ≠ 0
  | .publish a =>
    s.client.pConn = none ∨ a.Fail ∨ (s.client.channelId = true ∧ ¬ a.frame.Closes) ∨
      (s.client.channelId = false ∧ errorMsg a.channelOpen ≠ 0)
  | .consumer a =>
    s.client.channelId = true ∨ s.client.pConn = none ∨ errorMsg a.channelOpen ≠ 0 ∨
      errorMsg a.consume ≠ 0 ∨ ∃ m ∈ a.messages.take a.getNum, m.Fail a.serial a.filterate
  | .disconnect _ | .disconnectEx _ | .queueDelete _ => True

/-! ### The loop of `Consumer` -/

/-- A pass of the loop closes the channel and returns, or goes on with one message less. -/
lemma receive_cases (serial : String) (filterate timeout : Bool) (loop : Consumption)
    (m : Consumed) :
    (m.Fail serial filterate ∧ ∃ ret, loop.receive serial filterate timeout m =
      (some ret, (loop.receive serial filterate timeout m).2) ∧
      (loop.receive serial filterate timeout m).2.closed = true) ∨
    (¬ m.Fail serial filterate ∧ loop.receive serial filterate timeout m =
      (none, (loop.receive serial filterate timeout m).2) ∧
      (loop.receive serial filterate timeout m).2.closed = loop.closed ∧
      (loop.receive serial filterate timeout m).2.getNum = loop.getNum - 1) := by
  cases m with
  | failed rpcReply libraryError => exact Or.inl ⟨trivial, _, rfl, rfl⟩
  | message doc nack =>
    simp only [Consumption.receive, Consumed.Fail]
    by_cases hforeign : filterate = true ∧ isMySerialNum serial doc = false
    · by_cases hnack : nack = 0
      · exact Or.inr (by simp [hforeign, hnack])
      · exact Or.inl (by simp [hforeign, hnack, Consumption.close])
    · exact Or.inr (by simp [hforeign])

/-- The loop closes the channel just if one of the messages that it asks for fails. -/
lemma receiveAll_closed_iff (serial : String) (filterate timeout : Bool) (ms : List Consumed)
    {loop : Consumption} (h : loop.closed = false) :
    (Consumption.receiveAll serial filterate timeout loop ms).2.closed = true ↔
      ∃ m ∈ ms.take loop.getNum, m.Fail serial filterate := by
  -- each pass needs the count that the pass before has left
  induction ms generalizing loop with
  | nil => simp [Consumption.receiveAll, h]
  | cons m ms ih =>
    rw [Consumption.receiveAll]
    cases hnum : loop.getNum with
    | zero => simp [h]
    | succ n =>
      rw [if_neg (Nat.succ_ne_zero n), List.take_succ_cons]
      rcases receive_cases serial filterate timeout loop m with
        ⟨hfail, ret, heq, hclosed⟩ | ⟨hgoes, heq, hopen, hless⟩
      · rw [heq]
        exact iff_of_true hclosed ⟨m, List.mem_cons_self, hfail⟩
      · rw [heq]
        dsimp only
        rw [ih (hopen.trans h), hless, hnum]
        constructor
        · rintro ⟨m', hm', hfail⟩
          exact ⟨m', List.mem_cons_of_mem m hm', hfail⟩
        · rintro ⟨m', hm', hfail⟩
          rcases List.mem_cons.mp hm' with rfl | hm'
          · exact absurd hfail hgoes
          · exact ⟨m', hm', hfail⟩

/-! ### Channels and confirmations -/

variable {s : Endpoint}

lemma trusted_of_null (h : s.client.channelId = false) : s.Trusted := by
  intro hch
  rw [h] at hch
  exact nomatch hch

lemma trusted_dropChannel (s : Endpoint) : s.dropChannel.Trusted :=
  trusted_of_null rfl

lemma not_trusted (h : s.client.channelId = true)
    (hconn : ∀ c, s.client.pConn = some c → ¬ (s.amqp.connection c).Confirms s.client.iChannel) :
    ¬ s.Trusted := by
  intro ht
  obtain ⟨c, hc, hconf⟩ := ht h
  exact hconn c hc hconf

lemma not_trusted_opened (s : Endpoint) : ¬ s.opened.Trusted := by
  apply not_trusted rfl
  intro c hc hconf
  have hp : s.client.pConn = some c := hc
  obtain ⟨_, _, hmem⟩ := hconf
  simp [opened, Amqp.channelOpen, hp] at hmem

lemma trusted_confirmed_opened (s : Endpoint) :
    s.opened.confirmed.Trusted ↔ s.LoggedIn := by
  constructor
  · intro ht
    obtain ⟨c, hc, hlogin, _⟩ := ht rfl
    have hp : s.client.pConn = some c := hc
    refine ⟨c, hp, ?_⟩
    simpa [confirmed, opened, Amqp.channelOpen, Amqp.confirmSelect, hp] using hlogin
  · rintro ⟨c, hc, hlogin⟩ _
    refine ⟨c, hc, ?_⟩
    simp [confirmed, opened, Connection.Confirms, Amqp.channelOpen, Amqp.confirmSelect, hc, hlogin]

lemma Trusted.confirmed (h : s.Trusted) : s.confirmed.Trusted := by
  intro hch
  obtain ⟨c, hc, hlogin, hopen, hconf⟩ := h hch
  refine ⟨c, hc, ?_⟩
  simp [Endpoint.confirmed, Connection.Confirms, Amqp.confirmSelect, hc, hlogin, hopen]

lemma handleFrame_trusted_iff (h : s.client.channelId = true) (basicPublish : ℤ) (f : Frame) :
    (s.handleFrame basicPublish f).2.Trusted ↔ s.Trusted ∧ ¬ f.Closes := by
  cases f with
  | ack | returned | otherMethod | elsewhere =>
    exact ⟨fun ht => ⟨ht, by rintro (h | h) <;> exact nomatch h⟩, fun ht => ht.1⟩
  | channelClose =>
    refine iff_of_false ?_ fun ht => ht.2 (Or.inl rfl)
    refine not_trusted h fun c hc hconf => ?_
    have hp : s.client.pConn = some c := hc
    obtain ⟨_, hopen, _⟩ := hconf
    simp [handleFrame, Amqp.channelClose, hp] at hopen
  | connectionClose =>
    refine iff_of_false ?_ fun ht => ht.2 (Or.inr rfl)
    refine not_trusted h fun c hc hconf => ?_
    have hp : s.client.pConn = some c := hc
    obtain ⟨hlogin, _⟩ := hconf
    simp [handleFrame, recordDisConn, Amqp.connectionClose, hp] at hlogin

/-! ### The operations -/

lemma trusted_or_dropped {P : Prop} [Decidable P] (ret : ℤ) (r : ℤ × Endpoint) :
    (if P then (ret, s.dropChannel) else r).2.Trusted ↔ P ∨ r.2.Trusted := by
  by_cases h : P
  · rw [if_pos h]
    exact iff_of_true (trusted_dropChannel s) (Or.inl h)
  · rw [if_neg h]
    exact ⟨Or.inr, fun ht => ht.resolve_left h⟩

/-- A `Connect` that fails keeps the channel of the connection before. -/
lemma connect_trusted_iff (s : Endpoint) (a : ConnectAnswers) :
    (s.connect a).2.Trusted ↔ s.client.channelId = false ∨ a.Succeed := by
  cases hch : s.client.channelId with
  | false =>
    refine iff_of_true (trusted_of_null ?_) (Or.inl rfl)
    simp only [connect]
    split_ifs <;> first | exact hch | rfl
  -- `Connect` forgets the channel only at its end, behind all returns
  | true =>
    -- the channel was kept, and its connection is not logged in
    have hfails : ∀ r : ℤ × Endpoint, r.2.client.channelId = true →
        (∀ c, r.2.client.pConn = some c → (r.2.amqp.connection c).loggedIn = false) →
        ¬ r.2.Trusted := by
      intro r hr hlogin
      refine not_trusted hr fun c hc hconf => ?_
      have hout := hlogin c hc
      rw [hconf.1] at hout
      exact nomatch hout
    have hnew : ∀ c, some s.amqp.count = some c →
        ((s.amqp.newConnection).2.connection c).loggedIn = false := by
      rintro c ⟨⟩
      simp [Amqp.newConnection, Connection.new]
    simp only [connect, ConnectAnswers.Succeed, Bool.true_eq_false, false_or]
    cases a.newConnection with
    | false => exact iff_of_false (hfails _ hch fun c hc => nomatch hc) fun h => nomatch h.1
    | true =>
      cases a.tcpSocketNew with
      | false => exact iff_of_false (hfails _ hch hnew) fun h => nomatch h.2.1
      | true =>
        simp only [Bool.not_true, Bool.false_eq_true, if_false, true_and]
        split_ifs with hsocket hlogin
        · exact iff_of_false (hfails _ hch hnew) fun h => absurd h.1 (by omega)
        · exact iff_of_false (hfails _ hch hnew) fun h => hlogin h.2
        · -- the only way out on which the channel is forgotten
          exact iff_of_true (trusted_of_null rfl) ⟨by omega, by simpa using hlogin⟩

/-- What is done only when there is a channel leaves none. -/
lemma if_channelId_false {t : Endpoint} (ht : t.client.channelId = false) :
    (if s.client.channelId = true then t else s).client.channelId = false := by
  split_ifs with h
  · exact ht
  · simpa using h

lemma disconnect_trusted (s : Endpoint) (a : DisconnectAnswers) : (s.disconnect a).2.Trusted := by
  apply trusted_of_null
  have h := if_channelId_false (s := s) (t := s.dropChannel) rfl
  rw [disconnect]
  generalize (if s.client.channelId = true then s.dropChannel else s) = t at h ⊢
  split_ifs
  · exact h
  · exact h
  · rfl

lemma disconnectEx_trusted (s : Endpoint) (a : DisconnectAnswers) :
    (s.disconnectEx a).Trusted := by
  apply trusted_of_null
  have h := if_channelId_false (s := s)
    (t := ⟨s.amqp.channelClose s.client.pDisConn s.client.iDisChannel,
      { s.client with channelId := false }⟩) rfl
  rw [disconnectEx]
  generalize (if s.client.channelId = true then _ else s) = t at h ⊢
  split_ifs
  · exact h
  · exact h
  · rfl

lemma nextChannel_channelId (s : Endpoint) :
    s.nextChannel.client.channelId = s.client.channelId := by
  rw [nextChannel]
  split_ifs <;> rfl

lemma nextChannel_loggedIn (s : Endpoint) : s.nextChannel.LoggedIn ↔ s.LoggedIn := by
  rw [nextChannel]
  split_ifs <;> exact Iff.rfl

lemma Trusted.nextChannel (h : s.Trusted) : s.nextChannel.Trusted := by
  rw [Endpoint.nextChannel]
  split_ifs with hch
  · exact h
  · exact trusted_of_null (by simpa using hch)

lemma exchangeDeclare_trusted_iff (h : s.Trusted) (a : ChannelAnswers) :
    (s.exchangeDeclare a).2.Trusted ↔ s.client.channelId = true ∨ s.LoggedIn ∨
      errorMsg a.channelOpen ≠ 0 ∨ errorMsg a.reply ≠ 0 := by
  rw [exchangeDeclare, ← nextChannel_channelId s, ← nextChannel_loggedIn s]
  have h := h.nextChannel
  generalize s.nextChannel = s at h ⊢
  rcases s.openChannel_cases a.channelOpen with
    ⟨hch, hopen⟩ | ⟨_, hfail, hopen⟩ | ⟨hch, hok, hopen⟩
  · rw [hopen]
    exact iff_of_true ((trusted_or_dropped _ _).mpr (Or.inr h.confirmed)) (Or.inl hch)
  · rw [hopen]
    exact iff_of_true (trusted_dropChannel s) (Or.inr (Or.inr (Or.inl hfail)))
  · rw [hopen]
    refine (trusted_or_dropped _ _).trans ?_
    rw [trusted_confirmed_opened s]
    simp [hch, hok, or_comm]

lemma queueOperation_trusted_iff (h : s.Trusted) (openFailed : Reply → ℤ) (a : ChannelAnswers) :
    (s.queueOperation openFailed a).2.Trusted ↔ s.client.channelId = true ∨
      s.client.pConn = none ∨ errorMsg a.channelOpen ≠ 0 ∨ errorMsg a.reply ≠ 0 := by
  rw [queueOperation]
  by_cases hp : s.client.pConn = none
  · rw [if_pos hp]
    exact iff_of_true h (Or.inr (Or.inl hp))
  · rw [if_neg hp]
    rcases s.openChannel_cases a.channelOpen with
      ⟨hch, hopen⟩ | ⟨_, hfail, hopen⟩ | ⟨hch, hok, hopen⟩
    · rw [hopen]
      exact iff_of_true ((trusted_or_dropped _ _).mpr (Or.inr h)) (Or.inl hch)
    · rw [hopen]
      exact iff_of_true (trusted_dropChannel s) (Or.inr (Or.inr (Or.inl hfail)))
    · rw [hopen]
      refine (trusted_or_dropped _ _).trans ?_
      simp [hch, hp, hok, not_trusted_opened s]

lemma queueDelete_trusted (h : s.Trusted) (a : ChannelAnswers) :
    (s.queueDelete a).2.Trusted := by
  rw [queueDelete]
  by_cases hp : s.client.pConn = none
  · rw [if_pos hp]
    exact h
  · rw [if_neg hp]
    rcases s.openChannel_cases a.channelOpen with ⟨_, hopen⟩ | ⟨_, _, hopen⟩ | ⟨_, _, hopen⟩
    · rw [hopen]
      exact trusted_dropChannel s
    · rw [hopen]
      exact trusted_dropChannel s
    · rw [hopen]
      exact trusted_dropChannel s.opened

lemma publish_trusted_iff (h : s.Trusted) (a : PublishAnswers) :
    (s.publish a).2.Trusted ↔ s.client.pConn = none ∨ a.Fail ∨
      (s.client.channelId = true ∧ ¬ a.frame.Closes) ∨
      (s.client.channelId = false ∧ errorMsg a.channelOpen ≠ 0) := by
  rw [publish]
  by_cases hp : s.client.pConn = none
  · rw [if_pos hp]
    exact iff_of_true h (Or.inl hp)
  · rw [if_neg hp]
    rcases s.openChannel_cases a.channelOpen with
      ⟨hch, hopen⟩ | ⟨hch, hfail, hopen⟩ | ⟨hch, hok, hopen⟩
    · rw [hopen]
      refine (trusted_or_dropped _ _).trans ?_
      rw [handleFrame_trusted_iff hch]
      simp [PublishAnswers.Fail, h, hp, hch]
    · rw [hopen]
      exact iff_of_true (trusted_dropChannel s) (Or.inr (Or.inr (Or.inr ⟨hch, hfail⟩)))
    · rw [hopen]
      refine (trusted_or_dropped _ _).trans ?_
      rw [handleFrame_trusted_iff rfl]
      simp [PublishAnswers.Fail, not_trusted_opened s, hp, hch, hok]

lemma consume_trusted_iff {a : ConsumerAnswers} {r : ℤ × Endpoint} (hr : s.consume a = some r) :
    r.2.Trusted ↔ s.Trusted ∨ errorMsg a.consume ≠ 0 ∨
      ∃ m ∈ a.messages.take a.getNum, m.Fail a.serial a.filterate := by
  rw [consume] at hr
  by_cases hconsume : errorMsg a.consume = 0
  · rw [if_neg (not_not_intro hconsume)] at hr
    obtain ⟨ret, _, rfl⟩ := Option.map_eq_some_iff.mp hr
    have hnew : { Consumption.new with getNum := a.getNum }.closed = false := rfl
    have hclosed := receiveAll_closed_iff a.serial a.filterate a.timeout a.messages hnew
    dsimp only at hclosed ⊢
    rw [← hclosed]
    split_ifs with hc
    · exact iff_of_true (trusted_dropChannel s) (Or.inr (Or.inr hc))
    · simp [hconsume, hc]
  · rw [if_pos hconsume] at hr
    rw [← Option.some.inj hr]
    exact iff_of_true (trusted_dropChannel s) (Or.inr (Or.inl hconsume))

lemma consumer_trusted_iff (h : s.Trusted) {a : ConsumerAnswers} {r : ℤ × Endpoint}
    (hr : s.consumer a = some r) :
    r.2.Trusted ↔ s.client.channelId = true ∨ s.client.pConn = none ∨
      errorMsg a.channelOpen ≠ 0 ∨ errorMsg a.consume ≠ 0 ∨
      ∃ m ∈ a.messages.take a.getNum, m.Fail a.serial a.filterate := by
  rw [consumer] at hr
  by_cases hp : s.client.pConn = none
  · rw [if_pos hp] at hr
    rw [← Option.some.inj hr]
    exact iff_of_true h (Or.inr (Or.inl hp))
  · rw [if_neg hp] at hr
    rcases s.openChannel_cases a.channelOpen with
      ⟨hch, hopen⟩ | ⟨_, hfail, hopen⟩ | ⟨hch, hok, hopen⟩
    · rw [hopen] at hr
      exact iff_of_true ((consume_trusted_iff hr).mpr (Or.inl h)) (Or.inl hch)
    · rw [hopen] at hr
      rw [← Option.some.inj hr]
      exact iff_of_true (trusted_dropChannel s) (Or.inr (Or.inr (Or.inl hfail)))
    · rw [hopen] at hr
      rw [consume_trusted_iff hr]
      simp [hch, hp, hok, not_trusted_opened s]

/-- A call leaves the pointer right exactly if it keeps to the condition. -/
lemma step_trusted_iff (h : s.Trusted) {op : ClientOp} {s' : Endpoint}
    (hs : s.step op = some s') : s'.Trusted ↔ s.Keeps op := by
  cases op with
  | consumer a =>
    obtain ⟨r, hr, rfl⟩ := Option.map_eq_some_iff.mp hs
    exact consumer_trusted_iff h hr
  | connect a =>
    rw [← Option.some.inj hs]
    exact connect_trusted_iff s a
  | disconnect a =>
    rw [← Option.some.inj hs]
    exact iff_of_true (disconnect_trusted s a) trivial
  | disconnectEx a =>
    rw [← Option.some.inj hs]
    exact iff_of_true (disconnectEx_trusted s a) trivial
  | exchangeDeclare a =>
    rw [← Option.some.inj hs]
    exact exchangeDeclare_trusted_iff h a
  | queueDeclare a | queueBind a | queueUnbind a =>
    rw [← Option.some.inj hs]
    exact queueOperation_trusted_iff h _ a
  | queueDelete a =>
    rw [← Option.some.inj hs]
    exact iff_of_true (queueDelete_trusted h a) trivial
  | publish a =>
    rw [← Option.some.inj hs]
    exact publish_trusted_iff h a

/-- In any calls on a client, with `DisconnectEx` between any of them, the channel pointer is right
at all times exactly if each call keeps to the condition. -/
theorem trusted_iff {ops : List ClientOp} {t : Endpoint}
    (hrun : Run.run step start ops = some t) :
    Run.Always step Trusted start ops ↔ Run.Meets step Keeps start ops :=
  Run.always_iff_meets (I := Trusted) (fun _ h => h)
    (fun _ _ _ h hc hs => (step_trusted_iff h hs).mpr hc)
    (fun _ _ _ h hc hs ht => hc ((step_trusted_iff h hs).mp ht)) (trusted_of_null rfl) hrun

/-- A `Connect` that succeeds. -/
def connected : ClientOp :=
  .connect ⟨true, true, 0, .normal⟩

/-- A channel is opened if needed, and the operation has the given reply. -/
def opening (reply : Reply) : ChannelAnswers := ⟨.normal, reply⟩

/-- A message is confirmed on a channel of a connection. -/
theorem trusted_iff_publish :
    Run.Always step Trusted start
      [connected, .exchangeDeclare (opening .normal), .publish ⟨.normal, 0, .normal, .ack⟩] := by
  refine (trusted_iff rfl).mpr ?_
  refine Run.meets_cons ?_ rfl (Run.meets_cons ?_ rfl (Run.meets_cons ?_ rfl trivial))
  · exact Or.inl rfl
  · exact Or.inr (Or.inl ⟨0, rfl, rfl⟩)
  · refine Or.inr (Or.inr (Or.inl ⟨rfl, ?_⟩))
    rintro (h | h)
    · exact nomatch h
    · exact nomatch h

/-- The exchange cannot be declared, and the next operation opens the channel without
confirmations; or the next connection cannot be made, and the channel is that of the one before. -/
theorem channel_not_trusted :
    (∃ t, Run.run step start [connected, .exchangeDeclare (opening .serverException),
        .queueDeclare (opening .normal)] = some t ∧ ¬ t.Trusted) ∧
      ∃ t, Run.run step start [connected, .exchangeDeclare (opening .normal),
        .connect ⟨true, true, -1, .normal⟩] = some t ∧ ¬ t.Trusted := by
  refine ⟨⟨_, rfl, ?_⟩, _, rfl, ?_⟩
  · refine not_trusted rfl ?_
    rintro c ⟨⟩ ⟨_, _, hconf⟩
    exact absurd hconf (by decide)
  · refine not_trusted rfl ?_
    rintro c ⟨⟩ ⟨hlogin, _⟩
    exact absurd hlogin (by decide)

end Endpoint

end DHGateway
