import DHGateway.Client.RabbitmqClient
import DHGateway.Core.Handles

/-!
# What becomes of connections

The effect of each operation of a client on its two pointers to connections, and on how often each
connection is destroyed.
-/

namespace DHGateway

/-- The connections, as far as they can be lost: how many there are, how often each was destroyed,
and the two pointers of a client. -/
structure Held where
  count : ℕ
  destroyed : ℕ → ℕ
  pConn : Option ℕ
  pDisConn : Option ℕ

/-- How often each connection was given to `amqp_destroy_connection`. -/
def Amqp.destroyed (w : Amqp) (c : ℕ) : ℕ :=
  (w.connection c).destroyed

lemma Amqp.modify_destroyed (w : Amqp) (p : Option ℕ) {f : Connection → Connection}
    (hf : ∀ c, (f c).destroyed = c.destroyed) : (w.modify p f).destroyed = w.destroyed := by
  funext c
  by_cases hp : p = some c
  · subst hp
    rw [Amqp.destroyed, Amqp.modify_self]
    exact hf _
  · rw [Amqp.destroyed, Amqp.modify_ne w p f hp]
    rfl

lemma Amqp.destroyConnection_destroyed (w : Amqp) (p : Option ℕ) :
    (w.destroyConnection p).destroyed = Handles.destroy w.destroyed p := by
  cases p with
  | none => rfl
  | some d =>
    funext c
    by_cases hc : c = d
    · subst hc
      rw [Amqp.destroyed, destroyConnection, Amqp.modify_self, Handles.destroy,
        Function.update_self]
      rfl
    · have hp : some d ≠ some c := fun h => hc (Option.some.inj h).symm
      rw [Amqp.destroyed, destroyConnection, Amqp.modify_ne _ _ _ hp, Handles.destroy,
        Function.update_of_ne hc]
      rfl

lemma Amqp.newConnection_destroyed (w : Amqp) :
    w.newConnection.2.destroyed = Function.update w.destroyed w.count 0 := by
  funext c
  by_cases hc : c = w.count
  · subst hc
    simp [Amqp.destroyed, newConnection, Connection.new]
  · simp [Amqp.destroyed, newConnection, hc]

lemma Amqp.closed_destroyed (w : Amqp) (p : Option ℕ) :
    ((w.connectionClose p).destroyConnection p).destroyed = Handles.destroy w.destroyed p := by
  have hclose : (w.connectionClose p).destroyed = w.destroyed :=
    Amqp.modify_destroyed w p fun _ => rfl
  rw [Amqp.destroyConnection_destroyed, hclose]

lemma Amqp.closed_count (w : Amqp) (p : Option ℕ) :
    ((w.connectionClose p).destroyConnection p).count = w.count := by
  rw [destroyConnection, modify_count, connectionClose, modify_count]

namespace Endpoint

def held (s : Endpoint) : Held :=
  ⟨s.amqp.count, s.amqp.destroyed, s.client.pConn, s.client.pDisConn⟩

section

variable (s : Endpoint)

@[simp] lemma held_dropChannel : s.dropChannel.held = s.held := by
  simp [held, dropChannel, Amqp.channelClose, Amqp.modify_destroyed]

@[simp] lemma held_opened : s.opened.held = s.held := by
  simp [held, opened, Amqp.channelOpen, Amqp.modify_destroyed]

@[simp] lemma held_confirmed : s.confirmed.held = s.held := by
  simp [held, confirmed, Amqp.confirmSelect, Amqp.modify_destroyed]

@[simp] lemma held_nextChannel : s.nextChannel.held = s.held := by
  rw [nextChannel]
  split_ifs <;> rfl

@[simp] lemma held_openChannel (reply : Reply) : (s.openChannel reply).2.held = s.held := by
  rcases s.openChannel_cases reply with ⟨_, h⟩ | ⟨_, _, h⟩ | ⟨_, _, h⟩
  · rw [h]
  · rw [h]
    exact held_dropChannel s
  · rw [h]
    exact held_opened s

lemma held_exchangeDeclare (a : ChannelAnswers) : (s.exchangeDeclare a).2.held = s.held := by
  have h := held_openChannel s.nextChannel a.channelOpen
  rw [exchangeDeclare]
  generalize s.nextChannel.openChannel a.channelOpen = r at h ⊢
  obtain ⟨ok, t⟩ := r
  cases ok with
  | false => simpa using h
  | true =>
    dsimp only
    split_ifs
    · simpa using h
    · simpa using h

lemma held_queueOperation (openFailed : Reply → ℤ) (a : ChannelAnswers) :
    (s.queueOperation openFailed a).2.held = s.held := by
  have h := held_openChannel s a.channelOpen
  rw [queueOperation]
  by_cases hp : s.client.pConn = none
  · rw [if_pos hp]
  · rw [if_neg hp]
    generalize s.openChannel a.channelOpen = r at h ⊢
    obtain ⟨ok, t⟩ := r
    cases ok with
    | false => exact h
    | true =>
      by_cases hreply : errorMsg a.reply = 0
      · simpa [hreply] using h
      · simpa [hreply] using h

lemma held_consume {a : ConsumerAnswers} {r : ℤ × Endpoint} (hr : s.consume a = some r) :
    r.2.held = s.held := by
  rw [consume] at hr
  split_ifs at hr
  · rw [← Option.some.inj hr]
    exact held_dropChannel s
  · obtain ⟨ret, _, rfl⟩ := Option.map_eq_some_iff.mp hr
    dsimp only
    by_cases hclosed : (Consumption.receiveAll a.serial a.filterate a.timeout
        { Consumption.new with getNum := a.getNum } a.messages).2.closed = true
    · rw [if_pos hclosed]
      exact held_dropChannel s
    · rw [if_neg hclosed]

lemma held_consumer {a : ConsumerAnswers} {r : ℤ × Endpoint} (hr : s.consumer a = some r) :
    r.2.held = s.held := by
  have h := held_openChannel s a.channelOpen
  rw [consumer] at hr
  generalize s.openChannel a.channelOpen = opened at h hr
  obtain ⟨ok, t⟩ := opened
  by_cases hp : s.client.pConn = none
  · rw [if_pos hp] at hr
    rw [← Option.some.inj hr]
  · rw [if_neg hp] at hr
    cases ok with
    | false =>
      rw [← Option.some.inj hr]
      exact h
    | true => exact (held_consume t hr).trans h

/-- The pointer is overwritten, whether or not there is a new connection. -/
lemma held_connect (a : ConnectAnswers) : (s.connect a).2.held =
    if a.newConnection then
      { s.held with
        count := s.held.count + 1
        destroyed := Function.update s.held.destroyed s.held.count 0
        pConn := some s.held.count }
    else { s.held with pConn := none } := by
  have hlogin : (s.amqp.newConnection.2.login (some s.amqp.count)).destroyed =
      s.amqp.newConnection.2.destroyed := Amqp.modify_destroyed _ _ fun _ => rfl
  cases hmade : a.newConnection with
  | false => simp [connect, hmade, held]
  | true =>
    have hnew : Function.update s.held.destroyed s.held.count 0 =
        s.amqp.newConnection.2.destroyed := (Amqp.newConnection_destroyed s.amqp).symm
    simp only [connect, hmade, Bool.not_true, Bool.false_eq_true, if_false, if_true]
    rw [hnew]
    -- no return of `Connect` gives the new connection up
    split_ifs
    · rfl
    · rfl
    · rfl
    · rw [← hlogin]
      simp [held, Amqp.login, Amqp.newConnection]

lemma held_disconnect (a : DisconnectAnswers) : (s.disconnect a).2.held =
    if errorMsg a.connectionClose ≠ 0 then s.held
    else { s.held with
      destroyed := Handles.destroy s.held.destroyed s.held.pConn
      pConn := if a.destroyConnection < 0 then s.held.pConn else none } := by
  have h : (if s.client.channelId = true then s.dropChannel else s).held = s.held := by
    split_ifs
    · exact held_dropChannel s
    · rfl
  rw [disconnect]
  generalize (if s.client.channelId = true then s.dropChannel else s) = t at h ⊢
  rw [← h]
  split_ifs
  · rfl
  · simp [held, Amqp.closed_destroyed, Amqp.closed_count]
  · simp [held, Amqp.closed_destroyed, Amqp.closed_count]

/-- What `DisconnectEx` closes is the recorded connection. -/
lemma held_disconnectEx (a : DisconnectAnswers) : (s.disconnectEx a).held =
    if errorMsg a.connectionClose ≠ 0 then s.held
    else { s.held with
      destroyed := Handles.destroy s.held.destroyed s.held.pDisConn
      pDisConn := if a.destroyConnection < 0 then s.held.pDisConn else none } := by
  have h : (if s.client.channelId = true then
      ({ amqp := s.amqp.channelClose s.client.pDisConn s.client.iDisChannel
         client := { s.client with channelId := false } } : Endpoint) else s).held = s.held := by
    split_ifs
    · simp [held, Amqp.channelClose, Amqp.modify_destroyed]
    · rfl
  rw [disconnectEx]
  generalize (if s.client.channelId = true then
    ({ amqp := s.amqp.channelClose s.client.pDisConn s.client.iDisChannel
       client := { s.client with channelId := false } } : Endpoint) else s) = t at h ⊢
  rw [← h]
  split_ifs
  · rfl
  · simp [held, Amqp.closed_destroyed, Amqp.closed_count]
  · simp [held, Amqp.closed_destroyed, Amqp.closed_count]

/-- `Publish` sends the message, and gets no frame of its channel. -/
def Unconfirmed (a : PublishAnswers) : Prop :=
  s.client.pConn ≠ none ∧ (s.client.channelId = true ∨ errorMsg a.channelOpen = 0) ∧
    ¬ (a.basicPublish ≠ 0 ∧ errorMsg a.rpcReply ≠ 0) ∧
    (a.frame = .connectionClose ∨ a.frame = .elsewhere)

instance (a : PublishAnswers) : Decidable (s.Unconfirmed a) := by
  unfold Unconfirmed; infer_instance

lemma held_handleFrame (basicPublish : ℤ) (f : Frame) : (s.handleFrame basicPublish f).2.held =
    if f = .connectionClose ∨ f = .elsewhere then { s.held with pDisConn := s.held.pConn }
    else s.held := by
  cases f with
  | ack => rfl
  | returned => rfl
  | otherMethod => rfl
  | elsewhere => rfl
  | channelClose => simp [held, handleFrame, Amqp.channelClose, Amqp.modify_destroyed]
  | connectionClose =>
    simp [held, handleFrame, recordDisConn, Amqp.connectionClose, Amqp.modify_destroyed]

lemma held_publish (a : PublishAnswers) : (s.publish a).2.held =
    if s.Unconfirmed a then { s.held with pDisConn := s.held.pConn } else s.held := by
  -- what `Publish` does once it has a channel
  have hsent : ∀ t : Endpoint, t.held = s.held → s.client.pConn ≠ none →
      (s.client.channelId = true ∨ errorMsg a.channelOpen = 0) →
      (if a.basicPublish ≠ 0 ∧ errorMsg a.rpcReply ≠ 0 then (a.basicPublish, t.dropChannel)
        else t.handleFrame a.basicPublish a.frame).2.held =
      if s.Unconfirmed a then { s.held with pDisConn := s.held.pConn } else s.held := by
    intro t ht hp hch
    by_cases hfails : a.basicPublish ≠ 0 ∧ errorMsg a.rpcReply ≠ 0
    · rw [if_pos hfails, if_neg fun h => h.2.2.1 hfails, held_dropChannel, ht]
    · rw [if_neg hfails, held_handleFrame, ht]
      by_cases hframe : a.frame = .connectionClose ∨ a.frame = .elsewhere
      · rw [if_pos hframe, if_pos ⟨hp, hch, hfails, hframe⟩]
      · rw [if_neg hframe, if_neg fun h => hframe h.2.2.2]
  rw [publish]
  by_cases hp : s.client.pConn = none
  · rw [if_pos hp, if_neg fun h => h.1 hp]
  · rw [if_neg hp]
    rcases s.openChannel_cases a.channelOpen with
      ⟨hch, hopen⟩ | ⟨hch, hfail, hopen⟩ | ⟨hch, hok, hopen⟩
    · rw [hopen]
      exact hsent s rfl hp (Or.inl hch)
    · rw [hopen]
      have hno : ¬ s.Unconfirmed a := by
        rintro ⟨_, hch' | hok, _⟩
        · rw [hch] at hch'
          exact nomatch hch'
        · exact hfail hok
      rw [if_neg hno]
      exact held_dropChannel s
    · rw [hopen]
      exact hsent s.opened (held_opened s) hp (Or.inr hok)

end

end Endpoint

end DHGateway
