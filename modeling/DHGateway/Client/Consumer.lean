import DHGateway.Core.Run
import DHGateway.Core.Settlement
import DHGateway.Message.Parse

/-!
# Receiving messages

The loop of `rabbitmqClient::Consumer`, message by message, with the broker's record of the
deliveries on the channel. With `filterate` messages of other gateways are handed back.
-/

namespace DHGateway

/-- `amqp_rpc_reply_t::reply_type`. -/
inductive Reply where
  | normal
  | none
  | libraryException
  | serverException
  deriving DecidableEq

/-- `socket_error` and `timeout_error`. -/
def socketError : ℤ := 10

def timeoutError : ℤ := 20

/-- `rabbitmqClient::ErrorMsg`. -/
def errorMsg : Reply → ℤ
  | .normal => 0
  | .libraryException => socketError
  | .none | .serverException => -1

/-- What `amqp_consume_message` comes to: a message, with the result of the `amqp_basic_nack` that
may follow; or a failure, with the reply asked for after it and the library's error. -/
inductive Consumed where
  | message (doc : Document) (nack : ℤ)
  | failed (rpcReply : Reply) (libraryError : ℤ)

/-- A channel with a consumer: the broker's record, the deliveries put into `message_array`, how
many messages the call in progress still gets, and whether the channel was closed. -/
structure Consumption where
  channel : Settlement.Channel
  messageArray : List ℕ
  getNum : ℕ
  closed : Bool

namespace Consumption

def new : Consumption :=
  ⟨.new, [], 0, false⟩

/-- `amqp_channel_close`, which ends the call too. -/
def close (s : Consumption) : Consumption :=
  { s with channel := s.channel.close, getNum := 0, closed := true }

/-- One pass of the loop of `Consumer`, with the value that it returns from the call. The
acknowledgement of a message of this gateway is commented out. -/
def receive (serial : String) (filterate timeout : Bool) (s : Consumption) :
    Consumed → Option ℤ × Consumption
  | .failed rpcReply libraryError =>
    (some (if errorMsg rpcReply = 0 ∧ timeout = true then timeoutError else libraryError), s.close)
  | .message doc nack =>
    let tag := s.channel.nextTag
    let s := { s with channel := s.channel.deliver (!filterate) }
    if filterate = true ∧ isMySerialNum serial doc = false then
      if nack ≠ 0 then (some (-4), s.close)
      else (none, { s with channel := s.channel.nackUpTo tag, getNum := s.getNum - 1 })
    else (none, { s with messageArray := s.messageArray ++ [tag], getNum := s.getNum - 1 })

/-- The loop of `Consumer`; it has not returned while messages are missing. -/
def receiveAll (serial : String) (filterate timeout : Bool) :
    Consumption → List Consumed → Option ℤ × Consumption
  | s, [] => (if s.getNum = 0 then some 0 else none, s)
  | s, a :: as =>
    if s.getNum = 0 then (some 0, s)
    else
      match s.receive serial filterate timeout a with
      | (some ret, s) => (some ret, s)
      | (none, s) => receiveAll serial filterate timeout s as

/-! ### Settling the deliveries of one channel -/

/-- A call of `Consumer` begins, or the call in progress gets its next message. -/
inductive Action where
  | call (getNum : ℕ)
  | consume (a : Consumed)

/-- One step of filtering calls on one channel, as long as it is open. -/
def step (serial : String) (s : Consumption) : Action → Option Consumption
  | .call getNum =>
    if s.closed = true ∨ s.getNum ≠ 0 then none else some { s with getNum := getNum }
  | .consume a =>
    if s.closed = true ∨ s.getNum = 0 then none else some (s.receive serial true false a).2

/-- Every message that was taken was acknowledged once and never returned, and every other one was
returned once. -/
structure Settled (s : Consumption) : Prop where
  taken : ∀ tag ∈ s.messageArray,
    s.channel.acked.count tag = 1 ∧ s.channel.returned.count tag = 0
  other : ∀ tag, 1 ≤ tag → tag ≤ s.channel.delivered → tag ∉ s.messageArray →
    s.channel.returned.count tag = 1

def Foreign (serial : String) (_ : Consumption) : Action → Prop
  | .consume (.message doc _) => isMySerialNum serial doc = false
  | _ => True

/-- All deliveries so far were returned. -/
structure AllReturned (s : Consumption) : Prop where
  messageArray : s.messageArray = []
  acked : s.channel.acked = []
  outstanding : s.channel.outstanding = []
  accounted : s.channel.Accounted

lemma AllReturned.settled {s : Consumption} (h : s.AllReturned) : s.Settled where
  taken := by
    rw [h.messageArray]
    exact fun tag htag => absurd htag List.not_mem_nil
  other := by
    intro tag h1 hn _
    apply h.accounted.count_returned h1 hn
    · rw [h.outstanding]
      exact List.not_mem_nil
    · rw [h.acked]
      exact List.not_mem_nil

lemma AllReturned.close {s : Consumption} (hm : s.messageArray = []) (hack : s.channel.acked = [])
    (h : s.channel.Accounted) : s.close.AllReturned :=
  ⟨hm, hack, rfl, h.close⟩

lemma AllReturned.step {serial : String} {s s' : Consumption} {act : Action}
    (h : s.AllReturned) (hf : s.Foreign serial act) (hs : s.step serial act = some s') :
    s'.AllReturned := by
  cases act with
  | call getNum =>
    simp only [Consumption.step] at hs
    split_ifs at hs
    rw [← Option.some.inj hs]
    exact ⟨h.messageArray, h.acked, h.outstanding, h.accounted⟩
  | consume a =>
    simp only [Consumption.step] at hs
    split_ifs at hs
    rw [← Option.some.inj hs]
    cases a with
    | failed rpcReply libraryError => exact .close h.messageArray h.acked h.accounted
    | message doc nack =>
      have hforeign : isMySerialNum serial doc = false := hf
      have hdeliver : (s.channel.deliver false).Accounted := h.accounted.deliver false
      simp only [receive, hforeign, Bool.not_true, and_self, if_true]
      -- the message is returned by the nack, or with the channel
      by_cases hnack : nack = 0
      · rw [if_neg (not_not_intro hnack)]
        refine ⟨h.messageArray, h.acked, ?_, hdeliver.nackUpTo _⟩
        show (s.channel.outstanding ++ [s.channel.nextTag]).filter _ = []
        rw [h.outstanding]
        simp
      · rw [if_pos hnack]
        exact .close h.messageArray h.acked hdeliver

/-- A message of this gateway is taken and not acknowledged. -/
lemma AllReturned.taken {serial : String} {s s' : Consumption} {act : Action}
    (h : s.AllReturned) (hf : ¬ s.Foreign serial act) (hs : s.step serial act = some s') :
    ¬ s'.Settled := by
  rcases act with getNum | ⟨doc, nack⟩ | ⟨rpcReply, libraryError⟩
  · exact absurd trivial hf
  · have hmine : isMySerialNum serial doc = true := (Bool.not_eq_false _).mp hf
    simp only [Consumption.step] at hs
    split_ifs at hs
    simp only [receive, hmine, Bool.true_eq_false, and_false, if_false, Bool.not_true] at hs
    rw [← Option.some.inj hs]
    intro hsettled
    have hack := (hsettled.taken s.channel.nextTag (by simp)).1
    have hnone : (s.channel.deliver false).acked = [] := h.acked
    rw [hnone] at hack
    exact absurd hack (by simp)
  · exact absurd trivial hf

/-- In any calls of `Consumer` on one channel all messages are settled as they should be, exactly
if none of them is for this gateway. -/
theorem settled_iff (serial : String) {as : List Action} {t : Consumption}
    (hrun : Run.run (step serial) new as = some t) :
    Run.Always (step serial) Settled new as ↔ Run.Meets (step serial) (Foreign serial) new as :=
  Run.always_iff_meets (I := AllReturned) (fun _ h => h.settled)
    (fun _ _ _ h hf hs => h.step hf hs) (fun _ _ _ h hf hs => h.taken hf hs)
    ⟨rfl, rfl, rfl, Settlement.Channel.accounted_new⟩ hrun

/-- A message for the gateway with the given serial number. -/
def messageFor (serial : String) : Document :=
  some (.obj [("serialNum", .str serial), ("msgType", .str "GATEWAY_SIGN_IN")])

/-- A message for this gateway and then one for another: the first one is taken, never
acknowledged, and returned to the queue with the second one. -/
theorem own_message_returned :
    ∃ t, Run.run (step "a1") new
        [.call 1, .consume (.message (messageFor "a1") 0), .call 1,
          .consume (.message (messageFor "b2") 0)] = some t ∧
      t.messageArray = [1] ∧ t.channel.acked = [] ∧ t.channel.returned = [1, 2] ∧
      ¬ t.Settled := by
  refine ⟨_, rfl, by decide, by decide, by decide, fun h => ?_⟩
  exact absurd (h.taken 1 (by decide)).1 (by decide)

/-- A message for another gateway is returned once. -/
theorem settled_iff_foreign :
    Run.Always (step "a1") Settled new [.call 1, .consume (.message (messageFor "b2") 0)] := by
  refine (settled_iff "a1" rfl).mpr ?_
  apply Run.meets_cons trivial rfl
  exact Run.meets_cons (show isMySerialNum "a1" (messageFor "b2") = false by decide) rfl trivial

end Consumption

end DHGateway
