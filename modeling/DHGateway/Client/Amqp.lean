import Mathlib.Logic.Function.Basic
import DHGateway.Client.Consumer

/-!
# Connections of the AMQP library

What the calls of a client make of the connections that the library hands out. Results of calls are
arguments of those who make them; what the broker closes by itself shows in later results.
-/

namespace DHGateway

/-- `amqp_connection_state_t_`: whether it is logged in, its open channels, those of them in
publisher-confirm mode, and how often it was given to `amqp_destroy_connection`. -/
structure Connection where
  loggedIn : Bool
  channels : List ℕ
  confirms : List ℕ
  destroyed : ℕ

/-- The connections that `amqp_new_connection` has returned so far. -/
structure Amqp where
  count : ℕ
  connection : ℕ → Connection

namespace Connection

def new : Connection := ⟨false, [], [], 0⟩

/-- A channel that can be published on with confirmation. -/
def Confirms (c : Connection) (channel : ℕ) : Prop :=
  c.loggedIn = true ∧ channel ∈ c.channels ∧ channel ∈ c.confirms

end Connection

namespace Amqp

def start : Amqp := ⟨0, fun _ => .new⟩

/-- Something happens to the connection behind a pointer. -/
def modify (w : Amqp) (p : Option ℕ) (f : Connection → Connection) : Amqp :=
  match p with
  | none => w
  | some c => { w with connection := Function.update w.connection c (f (w.connection c)) }

/-- `amqp_new_connection` that does not return null. -/
def newConnection (w : Amqp) : ℕ × Amqp :=
  (w.count, ⟨w.count + 1, Function.update w.connection w.count .new⟩)

/-- `amqp_login` with a normal reply. -/
def login (w : Amqp) (p : Option ℕ) : Amqp :=
  w.modify p fun c => { c with loggedIn := true }

/-- `amqp_channel_open` with a normal reply. The channel is a new one. -/
def channelOpen (w : Amqp) (p : Option ℕ) (channel : ℕ) : Amqp :=
  w.modify p fun c => { c with
    channels := channel :: c.channels
    confirms := c.confirms.filter fun k => k ≠ channel }

/-- `amqp_channel_close`. -/
def channelClose (w : Amqp) (p : Option ℕ) (channel : ℕ) : Amqp :=
  w.modify p fun c => { c with
    channels := c.channels.filter fun k => k ≠ channel
    confirms := c.confirms.filter fun k => k ≠ channel }

/-- `amqp_confirm_select`. -/
def confirmSelect (w : Amqp) (p : Option ℕ) (channel : ℕ) : Amqp :=
  w.modify p fun c => { c with confirms := channel :: c.confirms }

/-- `amqp_connection_close` with a normal reply, or the broker's `connection.close`. -/
def connectionClose (w : Amqp) (p : Option ℕ) : Amqp :=
  w.modify p fun c => { c with loggedIn := false, channels := [], confirms := [] }

/-- `amqp_destroy_connection`. -/
def destroyConnection (w : Amqp) (p : Option ℕ) : Amqp :=
  w.modify p fun c => { c with
    loggedIn := false
    channels := []
    confirms := []
    destroyed := c.destroyed + 1 }

section

variable (w : Amqp) (p : Option ℕ) (f : Connection → Connection)

@[simp] lemma modify_count : (w.modify p f).count = w.count := by
  cases p <;> rfl

@[simp] lemma modify_self (c : ℕ) : (w.modify (some c) f).connection c = f (w.connection c) :=
  Function.update_self ..

lemma modify_ne {c : ℕ} (h : p ≠ some c) : (w.modify p f).connection c = w.connection c := by
  cases p with
  | none => rfl
  | some d =>
    apply Function.update_of_ne
    rintro rfl
    exact h rfl

end

end Amqp

end DHGateway
