import DHGateway.Client.Amqp

/-!
# A client of the message broker

`rabbitmqClient`: its pointers to connections and its channel, and the operations on them with all
their ways to fail. The objects have static storage, so that the members that the constructor leaves
out are zero.
-/

namespace DHGateway

/-- The members of `rabbitmqClient` that are read again. `channelId` tells whether the pointer of
that name is not null. -/
structure RabbitmqClient where
  iChannel : ℕ
  iDisChannel : ℕ
  pDisConn : Option ℕ
  pConn : Option ℕ
  channelId : Bool

/-- A client and the connections of the library. -/
structure Endpoint where
  amqp : Amqp
  client : RabbitmqClient

/-- `rabbitmqClient::rabbitmqClient`. -/
def RabbitmqClient.new : RabbitmqClient := ⟨1, 0, none, none, false⟩

/-! ### What the library answers -/

structure ConnectAnswers where
  newConnection : Bool
  tcpSocketNew : Bool
  socketOpen : ℤ
  login : Reply

structure DisconnectAnswers where
  connectionClose : Reply
  destroyConnection : ℤ

/-- The replies to opening a channel, if that is needed, and to the operation itself. -/
structure ChannelAnswers where
  channelOpen : Reply
  reply : Reply

/-- The frame that `Publish` waits for: a method on its channel, the broker's `connection.close`,
or no frame of interest. -/
inductive Frame where
  | ack
  | returned
  | channelClose
  | otherMethod
  | connectionClose
  | elsewhere
  deriving DecidableEq

structure PublishAnswers where
  channelOpen : Reply
  basicPublish : ℤ
  rpcReply : Reply
  frame : Frame

/-- The arguments of a call of `Consumer` and the answers to it. -/
structure ConsumerAnswers where
  serial : String
  getNum : ℕ
  filterate : Bool
  timeout : Bool
  channelOpen : Reply
  consume : Reply
  messages : List Consumed

/-- A call on a client, or `DisconnectEx` by its thread. -/
inductive ClientOp where
  | connect (a : ConnectAnswers)
  | disconnect (a : DisconnectAnswers)
  | disconnectEx (a : DisconnectAnswers)
  | exchangeDeclare (a : ChannelAnswers)
  | queueDeclare (a : ChannelAnswers)
  | queueBind (a : ChannelAnswers)
  | queueUnbind (a : ChannelAnswers)
  | queueDelete (a : ChannelAnswers)
  | publish (a : PublishAnswers)
  | consumer (a : ConsumerAnswers)

namespace Endpoint

def start : Endpoint := ⟨.start, .new⟩

/-! ### The operations -/

variable (s : Endpoint)

/-- `amqp_channel_close`, and the channel is forgotten. -/
def dropChannel : Endpoint where
  amqp := s.amqp.channelClose s.client.pConn s.client.iChannel
  client := { s.client with channelId := false }

/-- `amqp_channel_open`, when it succeeds. -/
def opened : Endpoint where
  amqp := s.amqp.channelOpen s.client.pConn s.client.iChannel
  client := { s.client with channelId := true }

/-- The channel is opened if there is none; the flag tells whether there is one then. -/
def openChannel (reply : Reply) : Bool × Endpoint :=
  if s.client.channelId then (true, s)
  else if errorMsg reply ≠ 0 then (false, s.dropChannel)
  else (true, s.opened)

/-- `rabbitmqClient::Connect`. The pointer is overwritten first, and the channel is forgotten
last. -/
def connect (a : ConnectAnswers) : ℤ × Endpoint :=
  if !a.newConnection then (-1, { s with client := { s.client with pConn := none } })
  else
    let (conn, amqp) := s.amqp.newConnection
    let s : Endpoint := ⟨amqp, { s.client with pConn := some conn }⟩
    if !a.tcpSocketNew then (-2, s)
    else if a.socketOpen < 0 then (-3, s)
    else if errorMsg a.login ≠ 0 then (-4, s)
    else (0, ⟨s.amqp.login (some conn), { s.client with channelId := false }⟩)

/-- `rabbitmqClient::Disconnect`. -/
def disconnect (a : DisconnectAnswers) : ℤ × Endpoint :=
  let s := if s.client.channelId then s.dropChannel else s
  if errorMsg a.connectionClose ≠ 0 then (-1, s)
  else
    let s := { s with
      amqp := (s.amqp.connectionClose s.client.pConn).destroyConnection s.client.pConn }
    if a.destroyConnection < 0 then (-2, s)
    else (0, { s with client := { s.client with channelId := false, pConn := none } })

/-- `rabbitmqClient::DisconnectEx`: the recorded connection is closed, and the channel of the
current one is forgotten. -/
def disconnectEx (a : DisconnectAnswers) : Endpoint :=
  let s := if s.client.channelId then
    { amqp := s.amqp.channelClose s.client.pDisConn s.client.iDisChannel
      client := { s.client with channelId := false } }
    else s
  if errorMsg a.connectionClose ≠ 0 then s
  else
    let s := { s with
      amqp := (s.amqp.connectionClose s.client.pDisConn).destroyConnection s.client.pDisConn }
    if a.destroyConnection < 0 then s
    else { s with client :=
      { s.client with channelId := false, pDisConn := none, iDisChannel := 0 } }

/-- `amqp_confirm_select`. -/
def confirmed : Endpoint :=
  { s with amqp := s.amqp.confirmSelect s.client.pConn s.client.iChannel }

/-- Without a channel the next number is taken. -/
def nextChannel : Endpoint :=
  if s.client.channelId then s
  else { s with client := { s.client with iChannel := s.client.iChannel + 1 } }

/-- `rabbitmqClient::ExchangeDeclare`, the only operation that takes a new channel and that turns
publisher confirms on. -/
def exchangeDeclare (a : ChannelAnswers) : ℤ × Endpoint :=
  match s.nextChannel.openChannel a.channelOpen with
  | (false, s) => (-2, s)
  | (true, s) =>
    if errorMsg a.reply ≠ 0 then (-1, s.dropChannel)
    else (0, s.confirmed)

/-- What the operations on queues share. -/
def queueOperation (openFailed : Reply → ℤ) (a : ChannelAnswers) : ℤ × Endpoint :=
  if s.client.pConn = none then (-1, s)
  else
    match s.openChannel a.channelOpen with
    | (false, s) => (openFailed a.channelOpen, s)
    | (true, s) => if errorMsg a.reply ≠ 0 then (-1, s.dropChannel) else (0, s)

/-- `rabbitmqClient::QueueDeclare`. -/
def queueDeclare (a : ChannelAnswers) : ℤ × Endpoint :=
  s.queueOperation (fun _ => -2) a

/-- `rabbitmqClient::QueueBind`. -/
def queueBind (a : ChannelAnswers) : ℤ × Endpoint :=
  s.queueOperation errorMsg a

/-- `rabbitmqClient::QueueUnbind`. -/
def queueUnbind (a : ChannelAnswers) : ℤ × Endpoint :=
  s.queueOperation (fun _ => -2) a

/-- `rabbitmqClient::QueueDelete`. -/
def queueDelete (a : ChannelAnswers) : ℤ × Endpoint :=
  if s.client.pConn = none then (-1, s)
  else
    match s.openChannel a.channelOpen with
    | (false, s) => (-2, s)
    | (true, s) => (if errorMsg a.reply ≠ 0 then -3 else 0, s.dropChannel)

/-- The end of `Publish` without a frame of the channel. -/
def recordDisConn : Endpoint :=
  { s with client :=
    { s.client with iDisChannel := s.client.iChannel, pDisConn := s.client.pConn } }

/-- What `Publish` makes of the frame. -/
def handleFrame (basicPublish : ℤ) : Frame → ℤ × Endpoint
  | .ack => (basicPublish, s)
  | .returned => (-1, s)
  | .channelClose =>
    (-2, { s with amqp := s.amqp.channelClose s.client.pConn s.client.iChannel })
  | .otherMethod => (-2, s)
  | .connectionClose =>
    (-3, recordDisConn { s with amqp := s.amqp.connectionClose s.client.pConn })
  | .elsewhere => (-3, s.recordDisConn)

/-- `rabbitmqClient::Publish`. -/
def publish (a : PublishAnswers) : ℤ × Endpoint :=
  if s.client.pConn = none then (-1, s)
  else
    match s.openChannel a.channelOpen with
    | (false, s) => (-4, s)
    | (true, s) =>
      if a.basicPublish ≠ 0 ∧ errorMsg a.rpcReply ≠ 0 then (a.basicPublish, s.dropChannel)
      else s.handleFrame a.basicPublish a.frame

/-- `Consumer` with a channel; `none` when the answers do not make it return. -/
def consume (a : ConsumerAnswers) : Option (ℤ × Endpoint) :=
  if errorMsg a.consume ≠ 0 then some (-3, s.dropChannel)
  else
    let (ret, loop) := Consumption.receiveAll a.serial a.filterate a.timeout
      { Consumption.new with getNum := a.getNum } a.messages
    ret.map fun ret => (ret, if loop.closed then s.dropChannel else s)

/-- `rabbitmqClient::Consumer`. -/
def consumer (a : ConsumerAnswers) : Option (ℤ × Endpoint) :=
  if s.client.pConn = none then some (-1, s)
  else
    match s.openChannel a.channelOpen with
    | (false, s) => some (-2, s)
    | (true, s) => s.consume a

/-- The operation with its answers; `DisconnectEx` returns nothing. -/
def call : ClientOp → Option (ℤ × Endpoint)
  | .connect a => some (s.connect a)
  | .disconnect a => some (s.disconnect a)
  | .disconnectEx a => some (0, s.disconnectEx a)
  | .exchangeDeclare a => some (s.exchangeDeclare a)
  | .queueDeclare a => some (s.queueDeclare a)
  | .queueBind a => some (s.queueBind a)
  | .queueUnbind a => some (s.queueUnbind a)
  | .queueDelete a => some (s.queueDelete a)
  | .publish a => some (s.publish a)
  | .consumer a => s.consumer a

/-! ### What an opening comes to -/

lemma openChannel_cases (reply : Reply) :
    (s.client.channelId = true ∧ s.openChannel reply = (true, s)) ∨
    (s.client.channelId = false ∧ errorMsg reply ≠ 0 ∧
      s.openChannel reply = (false, s.dropChannel)) ∨
    (s.client.channelId = false ∧ errorMsg reply = 0 ∧ s.openChannel reply = (true, s.opened)) := by
  rw [openChannel]
  cases h : s.client.channelId with
  | true => exact Or.inl ⟨rfl, if_pos rfl⟩
  | false =>
    refine Or.inr ?_
    rw [if_neg Bool.false_ne_true]
    by_cases hreply : errorMsg reply = 0
    · exact Or.inr ⟨rfl, hreply, if_neg (not_not_intro hreply)⟩
    · exact Or.inl ⟨rfl, hreply, if_pos hreply⟩

end Endpoint

end DHGateway
