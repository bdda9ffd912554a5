import DHGateway.Client.Connections

/-!
# The consumers on a client's channel

Each call of `rabbitmqClient::Consumer` registers a consumer with the broker, whose tag the client
does not keep. A consumer ends with its channel, with its connection, or when it is cancelled by its
tag.
-/

namespace DHGateway

structure ChannelConsumer where
  connection : ℕ
  channel : ℕ
  tag : ℕ
  deriving DecidableEq

def Amqp.remaining (w : Amqp) (cs : List ChannelConsumer) : List ChannelConsumer :=
  cs.filter fun c => decide (c.channel ∈ (w.connection c.connection).channels)

/-- A client with the consumers that the broker has for it; the broker numbers their tags. `getNum`
counts the messages that the call of `Consumer` in progress still gets, and `cancelled` tells that
`CancelConsuming` was called last. -/
structure ConsumingClient where
  endpoint : Endpoint
  /-- `consumer_tag`, if it is not `amqp_empty_bytes`. -/
  consumerTag : Option ℕ
  consumers : List ChannelConsumer
  tags : ℕ
  getNum : ℕ
  cancelled : Bool

/-- What can happen next: another call on the client, also of another thread; the beginning of a
call of `Consumer` with what the broker replies; a result of `amqp_consume_message`; a call of
`CancelConsuming`; or the connection is lost. -/
inductive ConsumingAction where
  | call (op : ClientOp)
  | consumer (channelOpen consume : Reply) (getNum : ℕ)
  | receive (m : Consumed)
  | cancelConsuming
  | lost

namespace ConsumingClient

def start : ConsumingClient := ⟨.start, none, [], 0, 0, false⟩

def put (s : ConsumingClient) (e : Endpoint) : ConsumingClient :=
  { s with endpoint := e, consumers := e.amqp.remaining s.consumers, cancelled := false }

/-- `amqp_basic_consume`, when it succeeds. Its result, which has the tag, is dropped. -/
def basicConsume (s : ConsumingClient) : ConsumingClient :=
  match s.endpoint.client.pConn with
  | none => s
  | some conn => { s with
      consumers := s.endpoint.amqp.remaining
        (s.consumers ++ [⟨conn, s.endpoint.client.iChannel, s.tags⟩])
      tags := s.tags + 1 }

/-- `rabbitmqClient::Consumer` up to its loop. -/
def consumer (s : ConsumingClient) (channelOpen consume : Reply) (getNum : ℕ) : ConsumingClient :=
  if s.endpoint.client.pConn = none then { s with cancelled := false }
  else
    match s.endpoint.openChannel channelOpen with
    | (false, e) => s.put e
    | (true, e) =>
      let s := { s with consumerTag := none }
      if errorMsg consume ≠ 0 then s.put e.dropChannel
      else { (s.put e).basicConsume with getNum := getNum }

def onChannel (s : ConsumingClient) : List ChannelConsumer :=
  s.consumers.filter fun c =>
    decide (some c.connection = s.endpoint.client.pConn ∧ c.channel = s.endpoint.client.iChannel)

/-- `rabbitmqClient::CancelConsuming`. -/
def cancelConsuming (s : ConsumingClient) : ConsumingClient :=
  { s with
    consumers := s.consumers.filter fun c =>
      !decide (c ∈ s.onChannel ∧ some c.tag = s.consumerTag)
    cancelled := true }

/-- One step of a client whose calls of `Consumer` have these arguments. -/
def step (serial : String) (filterate timeout : Bool) (s : ConsumingClient) :
    ConsumingAction → Option ConsumingClient
  | .call op =>
    if op.name = none ∨ op.name = some .consumer then none
    else (s.endpoint.call op).map fun r => s.put r.2
  | .consumer channelOpen consume getNum =>
    if s.getNum ≠ 0 then none else some (s.consumer channelOpen consume getNum)
  | .receive m =>
    if s.getNum = 0 then none
    else
      let loop := (Consumption.receive serial filterate timeout
        { Consumption.new with getNum := s.getNum } m).2
      some { s.put (if loop.closed then s.endpoint.dropChannel else s.endpoint) with
        getNum := loop.getNum }
  | .cancelConsuming => if s.getNum ≠ 0 then none else some s.cancelConsuming
  | .lost =>
    some (s.put ⟨s.endpoint.amqp.connectionClose s.endpoint.client.pConn, s.endpoint.client⟩)

/-- The client's channel has one consumer at most, and none after `CancelConsuming`. -/
def OneConsumer (s : ConsumingClient) : Prop :=
  s.onChannel.length ≤ 1 ∧ (s.cancelled = true → s.onChannel = [])

/-- `Consumer` gets to `amqp_basic_consume`, which succeeds. -/
def Registers (s : ConsumingClient) (channelOpen consume : Reply) : Prop :=
  s.endpoint.client.pConn ≠ none ∧
    (s.endpoint.client.channelId = true ∨ errorMsg channelOpen = 0) ∧ errorMsg consume = 0

/-- A consumer is registered, or consuming is cancelled, only when the channel has none. -/
def Keeps (s : ConsumingClient) : ConsumingAction → Prop
  | .consumer channelOpen consume _ => s.Registers channelOpen consume → s.onChannel = []
  | .cancelConsuming => s.onChannel = []
  | _ => True

end ConsumingClient

/-! ### How operations change the pointers -/

/-- An operation may have come between: the client has the same connection, none or a new one, and
the same channel or a later one. -/
structure Endpoint.Follows (e' e : Endpoint) : Prop where
  count : e.amqp.count ≤ e'.amqp.count
  iChannel : e.client.iChannel ≤ e'.client.iChannel
  pConn : e'.client.pConn = e.client.pConn ∨ e'.client.pConn = none ∨
    e'.client.pConn = some e.amqp.count ∧ e.amqp.count < e'.amqp.count

namespace Endpoint

variable {e e' : Endpoint}

lemma follows_of_held {destroyed : ℕ → ℕ} {pDisConn : Option ℕ}
    (h : e'.held = ⟨e.held.count, destroyed, e.held.pConn, pDisConn⟩)
    (hch : e.client.iChannel ≤ e'.client.iChannel) : e'.Follows e :=
  ⟨(congrArg Held.count h).ge, hch, Or.inl (congrArg Held.pConn h)⟩

lemma iChannel_openChannel (e : Endpoint) (reply : Reply) :
    (e.openChannel reply).2.client.iChannel = e.client.iChannel := by
  rcases e.openChannel_cases reply with ⟨_, h⟩ | ⟨_, _, h⟩ | ⟨_, _, h⟩ <;> rw [h] <;> rfl

lemma iChannel_exchangeDeclare (e : Endpoint) (a : ChannelAnswers) :
    e.client.iChannel ≤ (e.exchangeDeclare a).2.client.iChannel := by
  have hnext : e.client.iChannel ≤ e.nextChannel.client.iChannel := by
    rw [nextChannel]
    split_ifs
    · exact le_rfl
    · exact Nat.le_succ _
  have hopen := iChannel_openChannel e.nextChannel a.channelOpen
  rw [exchangeDeclare]
  generalize e.nextChannel.openChannel a.channelOpen = r at hopen ⊢
  obtain ⟨ok, t⟩ := r
  cases ok with
  | false => exact hnext.trans hopen.ge
  | true =>
    dsimp only
    split_ifs
    · exact hnext.trans hopen.ge
    · exact hnext.trans hopen.ge

lemma iChannel_queueOperation (e : Endpoint) (openFailed : Reply → ℤ) (a : ChannelAnswers) :
    (e.queueOperation openFailed a).2.client.iChannel = e.client.iChannel := by
  have hopen := iChannel_openChannel e a.channelOpen
  rw [queueOperation]
  generalize e.openChannel a.channelOpen = r at hopen ⊢
  obtain ⟨ok, t⟩ := r
  cases ok with
  | false => split_ifs <;> first | rfl | exact hopen
  | true => split_ifs <;> first | rfl | exact hopen

lemma iChannel_publish (e : Endpoint) (a : PublishAnswers) :
    (e.publish a).2.client.iChannel = e.client.iChannel := by
  have hopen := iChannel_openChannel e a.channelOpen
  have hframe : ∀ t : Endpoint,
      (t.handleFrame a.basicPublish a.frame).2.client.iChannel = t.client.iChannel := by
    intro t
    cases a.frame <;> rfl
  rw [publish]
  generalize e.openChannel a.channelOpen = r at hopen ⊢
  obtain ⟨ok, t⟩ := r
  cases ok with
  | false => split_ifs <;> first | rfl | exact hopen
  | true => split_ifs <;> first | rfl | exact hopen | exact (hframe t).trans hopen

/-- The calls of the gateway on a client that it receives with, other than `Consumer`. -/
lemma follows_call {op : ClientOp} {r : ℤ × Endpoint} (hname : op.name ≠ none)
    (hconsumer : op.name ≠ some .consumer) (hr : e.call op = some r) : r.2.Follows e := by
  cases op with
  | connect a =>
    rw [← Option.some.inj hr]
    have hheld := held_connect e a
    have hch : e.client.iChannel ≤ (e.connect a).2.client.iChannel := by
      simp only [connect]
      split_ifs <;> exact le_rfl
    -- a new connection has a number of its own
    split_ifs at hheld
    · have hcount : (e.connect a).2.amqp.count = e.amqp.count + 1 := congrArg Held.count hheld
      have hp : (e.connect a).2.client.pConn = some e.amqp.count := congrArg Held.pConn hheld
      exact ⟨hcount ▸ Nat.le_succ _, hch, Or.inr (Or.inr ⟨hp, hcount ▸ Nat.lt_succ_self _⟩)⟩
    · exact ⟨(congrArg Held.count hheld).ge, hch, Or.inr (Or.inl (congrArg Held.pConn hheld))⟩
  | disconnect a =>
    rw [← Option.some.inj hr]
    have hheld := held_disconnect e a
    have hch : e.client.iChannel ≤ (e.disconnect a).2.client.iChannel := by
      simp only [disconnect]
      split_ifs <;> exact le_rfl
    split_ifs at hheld
    · exact follows_of_held hheld hch
    · exact follows_of_held hheld hch
    · exact ⟨(congrArg Held.count hheld).ge, hch, Or.inr (Or.inl (congrArg Held.pConn hheld))⟩
  | exchangeDeclare a =>
    rw [← Option.some.inj hr]
    have hheld := held_exchangeDeclare e a
    exact follows_of_held hheld (iChannel_exchangeDeclare e a)
  | queueDeclare a =>
    rw [← Option.some.inj hr]
    have hheld := held_queueOperation e (fun _ => -2) a
    exact follows_of_held hheld (iChannel_queueOperation e _ a).ge
  | queueBind a =>
    rw [← Option.some.inj hr]
    have hheld := held_queueOperation e errorMsg a
    exact follows_of_held hheld (iChannel_queueOperation e _ a).ge
  | publish a =>
    rw [← Option.some.inj hr]
    have hheld := held_publish e a
    have hch : e.client.iChannel ≤ (e.publish a).2.client.iChannel := (iChannel_publish e a).ge
    split_ifs at hheld
    · exact follows_of_held hheld hch
    · exact follows_of_held hheld hch
  | consumer a => exact absurd rfl hconsumer
  | disconnectEx a | queueUnbind a | queueDelete a => exact absurd rfl hname

lemma follows_dropChannel (e : Endpoint) : e.dropChannel.Follows e := by
  have hheld := held_dropChannel e
  exact follows_of_held hheld le_rfl

end Endpoint

namespace ConsumingClient

/-! ### Counting -/

/-- There is one consumer at most, all consumers are of connections and channels that the client
has had, and no tag is known. -/
structure Inv (s : ConsumingClient) : Prop where
  one : s.OneConsumer
  isOpen : s.endpoint.amqp.remaining s.consumers = s.consumers
  past : ∀ c ∈ s.consumers,
    c.connection < s.endpoint.amqp.count ∧ c.channel ≤ s.endpoint.client.iChannel
  pConn : ∀ c, s.endpoint.client.pConn = some c → c < s.endpoint.amqp.count
  consumerTag : s.consumerTag = none

lemma inv_start : start.Inv where
  one := ⟨Nat.zero_le 1, fun _ => rfl⟩
  isOpen := rfl
  past := fun _ hc => absurd hc List.not_mem_nil
  pConn := by
    intro c hc
    cases hc
  consumerTag := rfl

variable {s : ConsumingClient}

lemma remaining_remaining (w : Amqp) (cs : List ChannelConsumer) :
    w.remaining (w.remaining cs) = w.remaining cs := by
  simp [Amqp.remaining]

lemma mem_remaining {w : Amqp} {cs : List ChannelConsumer} {c : ChannelConsumer} :
    c ∈ w.remaining cs ↔ c ∈ cs ∧ c.channel ∈ (w.connection c.connection).channels := by
  simp [Amqp.remaining]

lemma mem_onChannel {c : ChannelConsumer} : c ∈ s.onChannel ↔ c ∈ s.consumers ∧
    some c.connection = s.endpoint.client.pConn ∧ c.channel = s.endpoint.client.iChannel := by
  simp [onChannel]

/-- A consumer of the channel in use after an operation was one of that channel before. -/
lemma Inv.onChannel_put (h : s.Inv) {e : Endpoint} (he : e.Follows s.endpoint) :
    (s.put e).onChannel.length ≤ s.onChannel.length := by
  rw [onChannel, onChannel, ← List.countP_eq_length_filter, ← List.countP_eq_length_filter]
  calc (s.put e).consumers.countP _ ≤ s.consumers.countP _ :=
        List.Sublist.countP_le List.filter_sublist
    _ ≤ s.consumers.countP _ := List.countP_mono_left ?_
  intro c hc hnow
  obtain ⟨hconn, hch⟩ := of_decide_eq_true hnow
  obtain ⟨hcount, hle⟩ := h.past c hc
  have hconn' : some c.connection = e.client.pConn := hconn
  rcases he.pConn with hp | hp | ⟨hp, -⟩
  · refine decide_eq_true ⟨hconn'.trans hp, le_antisymm hle ?_⟩
    exact he.iChannel.trans hch.ge
  · rw [hp] at hconn'
    cases hconn'
  · rw [hp] at hconn'
    exact absurd (Option.some.inj hconn') hcount.ne

lemma Inv.put (h : s.Inv) {e : Endpoint} (he : e.Follows s.endpoint) : (s.put e).Inv where
  one := ⟨(h.onChannel_put he).trans h.one.1, fun hno => absurd hno Bool.false_ne_true⟩
  isOpen := remaining_remaining _ _
  past := by
    intro c hc
    obtain ⟨hcount, hle⟩ := h.past c (mem_remaining.mp hc).1
    exact ⟨hcount.trans_le he.count, hle.trans he.iChannel⟩
  pConn := by
    intro c hc
    have hc' : e.client.pConn = some c := hc
    rcases he.pConn with hp | hp | ⟨hp, hlt⟩
    · exact (h.pConn c (hp.symm.trans hc')).trans_le he.count
    · cases hp.symm.trans hc'
    · exact Option.some.inj (hp.symm.trans hc') ▸ hlt
  consumerTag := h.consumerTag

lemma Inv.getNum (h : s.Inv) (n : ℕ) : { s with getNum := n }.Inv :=
  ⟨h.one, h.isOpen, h.past, h.pConn, h.consumerTag⟩

/-! ### Registering a consumer -/

lemma channels_opened (e : Endpoint) {conn channel : ℕ}
    (h : channel ∈ (e.amqp.connection conn).channels) :
    channel ∈ (e.opened.amqp.connection conn).channels := by
  by_cases hp : e.client.pConn = some conn
  · simp [Endpoint.opened, Amqp.channelOpen, hp, h]
  · simp only [Endpoint.opened, Amqp.channelOpen]
    rw [Amqp.modify_ne _ _ _ hp]
    exact h

lemma Inv.onChannel_opened (h : s.Inv) {e : Endpoint}
    (he : e = s.endpoint ∨ e = s.endpoint.opened) : (s.put e).onChannel = s.onChannel := by
  have hkept : (s.put e).consumers = s.consumers := by
    apply List.filter_eq_self.mpr
    intro c hc
    have hopen : c.channel ∈ (s.endpoint.amqp.connection c.connection).channels := by
      rw [← h.isOpen] at hc
      exact (mem_remaining.mp hc).2
    rcases he with rfl | rfl
    · exact decide_eq_true hopen
    · exact decide_eq_true (channels_opened s.endpoint hopen)
  rw [onChannel, hkept, onChannel]
  rcases he with rfl | rfl <;> rfl

/-- The consumer that `amqp_basic_consume` registers. -/
def newConsumer (s : ConsumingClient) (conn : ℕ) : ChannelConsumer :=
  ⟨conn, s.endpoint.client.iChannel, s.tags⟩

lemma basicConsume_eq {conn : ℕ} (h : s.Inv) (hp : s.endpoint.client.pConn = some conn) :
    s.basicConsume = { s with
      consumers := s.consumers ++ s.endpoint.amqp.remaining [s.newConsumer conn]
      tags := s.tags + 1 } := by
  have happend : s.endpoint.amqp.remaining (s.consumers ++ [s.newConsumer conn]) =
      s.consumers ++ s.endpoint.amqp.remaining [s.newConsumer conn] := by
    rw [Amqp.remaining, List.filter_append]
    exact congrArg (· ++ _) h.isOpen
  rw [basicConsume, hp, ← happend]
  rfl

lemma onChannel_basicConsume {conn : ℕ} (h : s.Inv) (hp : s.endpoint.client.pConn = some conn) :
    s.basicConsume.onChannel =
      s.onChannel ++ s.endpoint.amqp.remaining [s.newConsumer conn] := by
  rw [basicConsume_eq h hp, onChannel, List.filter_append]
  apply congrArg (s.onChannel ++ ·)
  apply List.filter_eq_self.mpr
  intro c hc
  rw [List.mem_singleton.mp (mem_remaining.mp hc).1]
  exact decide_eq_true ⟨hp.symm, rfl⟩

lemma Inv.basicConsume (h : s.Inv) (hp : s.endpoint.client.pConn ≠ none)
    (hnone : s.onChannel = []) (hcancelled : s.cancelled = false) : s.basicConsume.Inv := by
  obtain ⟨conn, hconn⟩ := Option.ne_none_iff_exists'.mp hp
  have hone : s.basicConsume.OneConsumer := by
    rw [OneConsumer, onChannel_basicConsume h hconn, hnone, List.nil_append]
    refine ⟨List.length_filter_le .., fun hno => ?_⟩
    rw [basicConsume_eq h hconn] at hno
    exact absurd hno (hcancelled ▸ Bool.false_ne_true)
  rw [basicConsume_eq h hconn] at hone ⊢
  refine ⟨hone, ?_, ?_, h.pConn, h.consumerTag⟩
  · show s.endpoint.amqp.remaining (s.consumers ++ _) = s.consumers ++ _
    rw [Amqp.remaining, List.filter_append]
    exact congrArg₂ (· ++ ·) h.isOpen (remaining_remaining _ _)
  · intro c hc
    rcases List.mem_append.mp hc with hc | hc
    · exact h.past c hc
    · rw [List.mem_singleton.mp (mem_remaining.mp hc).1]
      exact ⟨h.pConn conn hconn, le_rfl⟩

lemma Inv.not_oneConsumer (h : s.Inv) (hsome : s.onChannel ≠ []) :
    ¬ s.basicConsume.OneConsumer := by
  obtain ⟨c, hc⟩ := List.exists_mem_of_ne_nil _ hsome
  obtain ⟨hmem, hconn, hch⟩ := mem_onChannel.mp hc
  have hopen : s.endpoint.amqp.remaining [s.newConsumer c.connection] =
      [s.newConsumer c.connection] := by
    rw [← h.isOpen] at hmem
    have hchannel := (mem_remaining.mp hmem).2
    rw [hch] at hchannel
    simp [Amqp.remaining, newConsumer, hchannel]
  rintro ⟨hlength, -⟩
  rw [onChannel_basicConsume h hconn.symm, hopen, List.length_append] at hlength
  have hpos : 0 < s.onChannel.length := List.length_pos_of_mem hc
  have hone : [s.newConsumer c.connection].length = 1 := rfl
  omega

/-! ### Steps -/

lemma follows_opened {e : Endpoint} (he : e = s.endpoint ∨ e = s.endpoint.opened) :
    e.held = s.endpoint.held ∧ e.client.iChannel = s.endpoint.client.iChannel := by
  rcases he with rfl | rfl
  · exact ⟨rfl, rfl⟩
  · exact ⟨Endpoint.held_opened s.endpoint, rfl⟩

lemma Inv.consumer_opened (h : s.Inv) (hp : s.endpoint.client.pConn ≠ none) {e : Endpoint}
    (he : e = s.endpoint ∨ e = s.endpoint.opened) (n : ℕ) :
    (s.onChannel = [] → { (s.put e).basicConsume with getNum := n }.Inv) ∧
      (s.onChannel ≠ [] → ¬ { (s.put e).basicConsume with getNum := n }.OneConsumer) := by
  obtain ⟨hheld, hch⟩ := follows_opened he
  have hput : (s.put e).Inv := h.put (Endpoint.follows_of_held hheld hch.ge)
  have hconn : (s.put e).endpoint.client.pConn ≠ none := by
    intro hno
    exact hp ((congrArg Held.pConn hheld).symm.trans hno)
  rw [← h.onChannel_opened he]
  exact ⟨fun hnone => (hput.basicConsume hconn hnone rfl).getNum n, hput.not_oneConsumer⟩

/-- `Consumer` begins as it should exactly if it registers no second consumer. -/
lemma Inv.consumer (h : s.Inv) (channelOpen consume : Reply) (n : ℕ) :
    ((s.Registers channelOpen consume → s.onChannel = []) →
      (s.consumer channelOpen consume n).Inv) ∧
    (¬ (s.Registers channelOpen consume → s.onChannel = []) →
      ¬ (s.consumer channelOpen consume n).OneConsumer) := by
  have hfails : ¬ s.Registers channelOpen consume → (s.consumer channelOpen consume n).Inv →
      ((s.Registers channelOpen consume → s.onChannel = []) →
        (s.consumer channelOpen consume n).Inv) ∧
      (¬ (s.Registers channelOpen consume → s.onChannel = []) →
        ¬ (s.consumer channelOpen consume n).OneConsumer) :=
    fun hno hinv => ⟨fun _ => hinv, fun hreg => absurd (fun hyes => absurd hyes hno) hreg⟩
  have htag : { s with consumerTag := none } = s := by rw [← h.consumerTag]
  by_cases hp : s.endpoint.client.pConn = none
  · refine hfails (fun hreg => hreg.1 hp) ?_
    rw [ConsumingClient.consumer, if_pos hp]
    exact ⟨⟨h.one.1, fun hno => absurd hno Bool.false_ne_true⟩, h.isOpen, h.past, h.pConn,
      h.consumerTag⟩
  -- with a channel `e` what follows is the same, whether it was there or was just opened
  have hopened : ∀ e, (e = s.endpoint ∨ e = s.endpoint.opened) →
      s.endpoint.openChannel channelOpen = (true, e) →
      (s.endpoint.client.channelId = true ∨ errorMsg channelOpen = 0) →
      ((s.Registers channelOpen consume → s.onChannel = []) →
        (s.consumer channelOpen consume n).Inv) ∧
      (¬ (s.Registers channelOpen consume → s.onChannel = []) →
        ¬ (s.consumer channelOpen consume n).OneConsumer) := by
    intro e he hopen hch
    obtain ⟨hheld, hchannel⟩ := follows_opened he
    by_cases hconsume : errorMsg consume = 0
    · have hreg : s.Registers channelOpen consume := ⟨hp, hch, hconsume⟩
      obtain ⟨hone, hmore⟩ := h.consumer_opened hp he n
      rw [ConsumingClient.consumer, if_neg hp, hopen]
      dsimp only
      rw [if_neg (not_not_intro hconsume), htag]
      exact ⟨fun hkeeps => hone (hkeeps hreg), fun hno => hmore fun hnone => hno fun _ => hnone⟩
    · refine hfails (fun hreg => hconsume hreg.2.2) ?_
      rw [ConsumingClient.consumer, if_neg hp, hopen]
      dsimp only
      rw [if_pos hconsume, htag]
      exact h.put (Endpoint.follows_of_held ((Endpoint.held_dropChannel e).trans hheld)
        hchannel.ge)
  rcases s.endpoint.openChannel_cases channelOpen with
    ⟨hch, hopen⟩ | ⟨hch, hfail, hopen⟩ | ⟨_, hok, hopen⟩
  · exact hopened _ (Or.inl rfl) hopen (Or.inl hch)
  · have hno : ¬ s.Registers channelOpen consume := by
      rintro ⟨-, hch' | hok, -⟩
      · rw [hch] at hch'
        cases hch'
      · exact hfail hok
    refine hfails hno ?_
    rw [ConsumingClient.consumer, if_neg hp, hopen]
    exact h.put (Endpoint.follows_dropChannel s.endpoint)
  · exact hopened _ (Or.inr rfl) hopen (Or.inr hok)

/-- The tag that `CancelConsuming` has is no consumer's. -/
lemma cancelConsuming_eq (h : s.consumerTag = none) :
    s.cancelConsuming = { s with cancelled := true } := by
  have hkept : s.consumers.filter (fun c =>
      !decide (c ∈ s.onChannel ∧ some c.tag = s.consumerTag)) = s.consumers := by
    apply List.filter_eq_self.mpr
    intro c _
    simp [h]
  rw [cancelConsuming, hkept]

section

variable {serial : String} {filterate timeout : Bool} {s' : ConsumingClient} {a : ConsumingAction}

lemma Inv.step (h : s.Inv) (hs : s.step serial filterate timeout a = some s') :
    (s.Keeps a → s'.Inv) ∧ (¬ s.Keeps a → ¬ s'.OneConsumer) := by
  cases a with
  | call op =>
    refine ⟨fun _ => ?_, fun hno => absurd trivial hno⟩
    simp only [ConsumingClient.step] at hs
    split_ifs at hs with hname
    obtain ⟨hsome, hconsumer⟩ := not_or.mp hname
    obtain ⟨r, hr, rfl⟩ := Option.map_eq_some_iff.mp hs
    exact h.put (Endpoint.follows_call hsome hconsumer hr)
  | consumer channelOpen consume n =>
    simp only [ConsumingClient.step] at hs
    split_ifs at hs
    rw [← Option.some.inj hs]
    exact h.consumer channelOpen consume n
  -- a pass may drop the channel, never open one
  | receive m =>
    refine ⟨fun _ => ?_, fun hno => absurd trivial hno⟩
    simp only [ConsumingClient.step] at hs
    split_ifs at hs with hnum hclosed
    · rw [← Option.some.inj hs]
      exact (h.put (Endpoint.follows_dropChannel s.endpoint)).getNum _
    · rw [← Option.some.inj hs]
      exact (h.put (Endpoint.follows_of_held rfl le_rfl)).getNum _
  | cancelConsuming =>
    simp only [ConsumingClient.step] at hs
    split_ifs at hs
    rw [← Option.some.inj hs, cancelConsuming_eq h.consumerTag]
    constructor
    · intro hnone
      exact ⟨⟨h.one.1, fun _ => hnone⟩, h.isOpen, h.past, h.pConn, h.consumerTag⟩
    · exact fun hsome hone => hsome (hone.2 rfl)
  | lost =>
    refine ⟨fun _ => ?_, fun hno => absurd trivial hno⟩
    rw [← Option.some.inj hs]
    exact h.put ⟨(Amqp.modify_count ..).ge, le_rfl, Or.inl rfl⟩

end

/-- In any run of a client its channel has one consumer at most, and none after `CancelConsuming`,
exactly if `Consumer` and `CancelConsuming` only come when the channel has none. -/
theorem oneConsumer_iff (serial : String) (filterate timeout : Bool) {as : List ConsumingAction}
    {t : ConsumingClient} (hrun : Run.run (step serial filterate timeout) start as = some t) :
    Run.Always (step serial filterate timeout) OneConsumer start as ↔
      Run.Meets (step serial filterate timeout) Keeps start as :=
  Run.always_iff_meets (I := Inv) (fun _ h => h.one) (fun _ _ _ h hk hs => (h.step hs).1 hk)
    (fun _ _ _ h hk hs => (h.step hs).2 hk) inv_start hrun

/-- `Connect`, when all goes well. -/
def connected : ConsumingAction := .call (.connect ⟨true, true, 0, .normal⟩)

/-- A call of `Consumer` that times out, and another. -/
theorem oneConsumer_iff_timeout :
    Run.Always (step "a1" false true) OneConsumer start
      [connected, .consumer .normal .normal 1, .receive (.failed .normal (-13)),
        .consumer .normal .normal 1] := by
  refine (oneConsumer_iff "a1" false true rfl).mpr ?_
  apply Run.meets_cons trivial rfl
  apply Run.meets_cons (fun _ => rfl) rfl
  apply Run.meets_cons trivial rfl
  exact Run.meets_cons (fun _ => rfl) rfl trivial

/-- A message is received, and `Consumer` is called for the next one; or consuming is cancelled. -/
theorem not_oneConsumer :
    (∃ t, Run.run (step "a1" true false) start
        [connected, .consumer .normal .normal 1,
          .receive (.message (Consumption.messageFor "a1") 0),
          .consumer .normal .normal 1] = some t ∧
      t.onChannel = [⟨0, 1, 0⟩, ⟨0, 1, 1⟩] ∧ ¬ t.OneConsumer) ∧
    ∃ t, Run.run (step "a1" true false) start
        [connected, .consumer .normal .normal 1,
          .receive (.message (Consumption.messageFor "a1") 0), .cancelConsuming] = some t ∧
      t.onChannel = [⟨0, 1, 0⟩] ∧ ¬ t.OneConsumer := by
  constructor
  · exact ⟨_, rfl, by decide, fun h => absurd h.1 (by decide)⟩
  · exact ⟨_, rfl, by decide, fun h => absurd (h.2 rfl) (by decide)⟩

/-! ### Whole calls -/

section

variable {serial : String} {filterate timeout : Bool}

/-- What a pass returns, and what it leaves to do, is determined by how many messages are
missing. -/
lemma receive_control {c : Consumption} (hclosed : c.closed = false) (m : Consumed) :
    (c.receive serial filterate timeout m).1 =
        (Consumption.receive serial filterate timeout
          { Consumption.new with getNum := c.getNum } m).1 ∧
      (c.receive serial filterate timeout m).2.closed =
        (Consumption.receive serial filterate timeout
          { Consumption.new with getNum := c.getNum } m).2.closed ∧
      (c.receive serial filterate timeout m).2.getNum =
        (Consumption.receive serial filterate timeout
          { Consumption.new with getNum := c.getNum } m).2.getNum := by
  cases m with
  | failed rpcReply libraryError => exact ⟨rfl, rfl, rfl⟩
  | message doc nack =>
    simp only [Consumption.receive]
    split_ifs
    · exact ⟨rfl, rfl, rfl⟩
    · exact ⟨rfl, hclosed, rfl⟩
    · exact ⟨rfl, hclosed, rfl⟩

/-- A pass that returns leaves nothing to do, and one that goes on leaves the channel open. -/
lemma receive_returns {c : Consumption} (hclosed : c.closed = false) (m : Consumed) :
    ((c.receive serial filterate timeout m).1 ≠ none →
        (c.receive serial filterate timeout m).2.getNum = 0) ∧
      ((c.receive serial filterate timeout m).1 = none →
        (c.receive serial filterate timeout m).2.closed = false) := by
  cases m with
  | failed rpcReply libraryError =>
    exact ⟨fun _ => rfl, fun hno => absurd hno (Option.some_ne_none _)⟩
  | message doc nack =>
    simp only [Consumption.receive]
    split_ifs
    · exact ⟨fun _ => rfl, fun hno => hno.elim⟩
    · exact ⟨fun hno => absurd rfl hno, fun _ => hclosed⟩
    · exact ⟨fun hno => absurd rfl hno, fun _ => hclosed⟩

lemma step_receive {c : Consumption} (hclosed : c.closed = false) (hnum : s.getNum = c.getNum)
    (hmore : c.getNum ≠ 0) (m : Consumed) :
    s.step serial filterate timeout (.receive m) =
      some { s.put (if (c.receive serial filterate timeout m).2.closed then
        s.endpoint.dropChannel else s.endpoint) with
          getNum := (c.receive serial filterate timeout m).2.getNum } := by
  obtain ⟨-, hclosed', hnum'⟩ := receive_control hclosed m
  rw [step, hnum, if_neg hmore, hclosed', hnum']

lemma run_receiveAll {c c' : Consumption} {ret : ℤ} {ms : List Consumed}
    (hclosed : c.closed = false) (hnum : s.getNum = c.getNum)
    (h : Consumption.receiveAll serial filterate timeout c ms = (some ret, c')) :
    ∃ k t, Run.run (step serial filterate timeout) s ((ms.take k).map .receive) = some t ∧
      t.endpoint = (if c'.closed then s.endpoint.dropChannel else s.endpoint) ∧ t.getNum = 0 := by
  -- the calls of `amqp_consume_message` one by one, with the count between them
  induction ms generalizing c s with
  | nil =>
    rw [Consumption.receiveAll] at h
    split_ifs at h with hzero
    · obtain ⟨-, rfl⟩ := Prod.mk.inj h
      rw [hclosed]
      exact ⟨0, s, rfl, rfl, hnum.trans hzero⟩
    · cases congrArg Prod.fst h
  | cons m ms ih =>
    rw [Consumption.receiveAll] at h
    by_cases hzero : c.getNum = 0
    · rw [if_pos hzero] at h
      obtain ⟨-, rfl⟩ := Prod.mk.inj h
      rw [hclosed]
      exact ⟨0, s, rfl, rfl, hnum.trans hzero⟩
    · rw [if_neg hzero] at h
      have hstep : s.step serial filterate timeout _ = _ := step_receive hclosed hnum hzero m
      obtain ⟨hreturns, hgoes⟩ := receive_returns hclosed m
      generalize c.receive serial filterate timeout m = r at h hstep hreturns hgoes
      obtain ⟨ret', c₁⟩ := r
      cases ret' with
      -- this pass returned from inside the loop
      | some ret' =>
        obtain ⟨-, rfl⟩ := Prod.mk.inj h
        refine ⟨1, _, Run.run_cons.mpr ⟨_, hstep, rfl⟩, rfl, ?_⟩
        exact hreturns (Option.some_ne_none ret')
      | none =>
        have hopen : c₁.closed = false := hgoes rfl
        rw [hopen, if_neg Bool.false_ne_true] at hstep
        obtain ⟨k, t, hrun, hendpoint, hdone⟩ :=
          ih (s := { s.put s.endpoint with getNum := c₁.getNum }) hopen rfl h
        exact ⟨k + 1, t, Run.run_cons.mpr ⟨_, hstep, hrun⟩, hendpoint, hdone⟩

end

lemma basicConsume_endpoint (s : ConsumingClient) : s.basicConsume.endpoint = s.endpoint := by
  rw [ConsumingClient.basicConsume]
  cases s.endpoint.client.pConn <;> rfl

/-- A call of `Consumer` that returns is such a run, and leaves the client and the connections in
the same state. -/
lemma run_consumer {a : ConsumerAnswers} {r : ℤ × Endpoint} (hnum : s.getNum = 0)
    (hr : s.endpoint.consumer a = some r) :
    ∃ k t, Run.run (step a.serial a.filterate a.timeout) s
        (.consumer a.channelOpen a.consume a.getNum :: (a.messages.take k).map .receive) = some t ∧
      t.endpoint = r.2 ∧ t.getNum = 0 := by
  have hstep : s.step a.serial a.filterate a.timeout (.consumer a.channelOpen a.consume a.getNum) =
      some (s.consumer a.channelOpen a.consume a.getNum) := by
    rw [step, if_neg (not_not_intro hnum)]
  -- the returns before the loop leave no pass to make
  have hreturns : (s.consumer a.channelOpen a.consume a.getNum).endpoint = r.2 →
      (s.consumer a.channelOpen a.consume a.getNum).getNum = 0 →
      ∃ k t, Run.run (step a.serial a.filterate a.timeout) s
        (.consumer a.channelOpen a.consume a.getNum :: (a.messages.take k).map .receive) = some t ∧
      t.endpoint = r.2 ∧ t.getNum = 0 :=
    fun hendpoint hdone => ⟨0, _, Run.run_cons.mpr ⟨_, hstep, rfl⟩, hendpoint, hdone⟩
  rw [Endpoint.consumer] at hr
  by_cases hp : s.endpoint.client.pConn = none
  · rw [if_pos hp] at hr
    rw [← Option.some.inj hr] at hreturns ⊢
    apply hreturns <;> rw [ConsumingClient.consumer, if_pos hp]
    exact hnum
  · rw [if_neg hp] at hr
    rw [ConsumingClient.consumer, if_neg hp] at hstep hreturns
    generalize s.endpoint.openChannel a.channelOpen = opened at hr hstep hreturns
    obtain ⟨ok, e⟩ := opened
    cases ok with
    | false =>
      rw [← Option.some.inj hr] at hreturns ⊢
      exact hreturns rfl hnum
    | true =>
      dsimp only at hr hstep hreturns
      rw [Endpoint.consume] at hr
      by_cases hconsume : errorMsg a.consume = 0
      · rw [if_neg (not_not_intro hconsume)] at hr hstep
        obtain ⟨ret, hret, rfl⟩ := Option.map_eq_some_iff.mp hr
        obtain ⟨k, t, hrun, hendpoint, hdone⟩ := run_receiveAll rfl
          (s := { ({ s with consumerTag := none }.put e).basicConsume with getNum := a.getNum })
          rfl (Prod.ext hret rfl)
        rw [basicConsume_endpoint] at hendpoint
        exact ⟨k, t, Run.run_cons.mpr ⟨_, hstep, hrun⟩, hendpoint, hdone⟩
      · rw [if_pos hconsume] at hr hreturns
        rw [← Option.some.inj hr] at hreturns ⊢
        exact hreturns rfl hnum

end ConsumingClient

end DHGateway
