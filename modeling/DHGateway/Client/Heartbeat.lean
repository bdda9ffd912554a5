import DHGateway.Client.Connections

/-!
# Sending on the public queue

`send_public_queue` connects and publishes again after a failure, and `heartbeat_func` does so once
more when it is told of one. The calls on `objRabbitmq` are recorded with what they returned.
-/

namespace DHGateway

/-- A call on `objRabbitmq`. `Connect`, `ExchangeDeclare` and the names that `Publish` takes are
the same each time. -/
inductive PublicClientCall where
  | publish (msg : String)
  | disconnect
  | connect
  | exchangeDeclare
  deriving DecidableEq

/-- The calls so far with their results; the `n`-th call returns `results n`. -/
structure PublicClient where
  results : ℕ → ℤ
  calls : List (PublicClientCall × ℤ)

namespace PublicClient

def start (results : ℕ → ℤ) : PublicClient := ⟨results, []⟩

def call (c : PublicClientCall) : StateM PublicClient ℤ := fun s =>
  let ret := s.results s.calls.length
  (ret, { s with calls := s.calls ++ [(c, ret)] })

/-- `client_manage::disconnet_public`. -/
def disconnetPublic (clientType : ℤ) : StateM PublicClient Unit :=
  if clientType = 1 then do
    let _ ← call .disconnect
  else pure ()

/-- `client_manage::connet_public`, which ignores the results. -/
def connetPublic (clientType : ℤ) : StateM PublicClient Bool :=
  if clientType = 1 then do
    let _ ← call .connect
    let _ ← call .exchangeDeclare
    pure true
  else pure true

/-- `client_manage::reconnet_public`. -/
def reconnetPublic (clientType : ℤ) : StateM PublicClient Bool := do
  disconnetPublic clientType
  connetPublic clientType

/-- `client_manage::send_public_queue`. After the second `Publish` it returns `false` in any
case. -/
def sendPublicQueue (clientType : ℤ) (msg : String) : StateM PublicClient Bool :=
  if clientType = 1 then do
    let ret ← call (.publish msg)
    if ret ≠ 0 then do
      let _ ← call .disconnect
      let _ ← call .connect
      let _ ← call .exchangeDeclare
      let _ ← call (.publish msg)
      pure false
    else pure true
  else pure true

/-- The body of the loop of `heartbeat_func`, with what `gateway_heartbeat` builds for the first
send and for the one after it. -/
def heartbeatRound (clientType : ℤ) (heartbeat again : String) : StateM PublicClient Unit := do
  let b ← sendPublicQueue clientType heartbeat
  if b then pure ()
  else do
    let _ ← reconnetPublic clientType
    let _ ← sendPublicQueue clientType again

/-! ### What is expected of them -/

/-- The result of a send tells whether one of its calls of `Publish` returned `0`. -/
def Reports (msg : String) (r : Bool × PublicClient) : Prop :=
  r.1 = true ↔ (.publish msg, 0) ∈ r.2.calls

/-- A `Publish` that returned `0`. -/
def Published : PublicClientCall × ℤ → Bool
  | (.publish _, ret) => ret = 0
  | _ => false

/-- After a `Publish` that returned `last`, the calls disconnect only when the last `Publish` has
failed. -/
def DisconnectsFailed : ℤ → List (PublicClientCall × ℤ) → Prop
  | _, [] => True
  | _, (.publish _, ret) :: calls => DisconnectsFailed ret calls
  | last, (.disconnect, _) :: calls => last ≠ 0 ∧ DisconnectsFailed last calls
  | last, (.connect, _) :: calls | last, (.exchangeDeclare, _) :: calls =>
    DisconnectsFailed last calls

/-- A round of heartbeats: one is published at most, and the connection is only torn down after a
`Publish` that failed. -/
structure Round (calls : List (PublicClientCall × ℤ)) : Prop where
  once : calls.countP Published ≤ 1
  disconnects : DisconnectsFailed 0 calls

/-! ### What they do -/

variable {s : PublicClient} {clientType : ℤ}

def after (s : PublicClient) (cs : List PublicClientCall) : PublicClient :=
  { s with calls := s.calls ++ cs.zipIdx.map fun c => (c.1, s.results (s.calls.length + c.2)) }

lemma sendPublicQueue_other (h : clientType ≠ 1) (msg : String) :
    sendPublicQueue clientType msg s = (true, s) := by
  rw [sendPublicQueue, if_neg h]
  rfl

lemma map_apply {α β : Type} (f : α → β) (x : StateM PublicClient α) (s : PublicClient) :
    (f <$> x) s = (f (x s).1, (x s).2) := rfl

lemma bind_apply {α β : Type} (x : StateM PublicClient α) (f : α → StateM PublicClient β)
    (s : PublicClient) : (x >>= f) s = f (x s).1 (x s).2 := rfl

lemma sendPublicQueue_published (msg : String) (h : s.results s.calls.length = 0) :
    sendPublicQueue 1 msg s = (true, s.after [.publish msg]) := by
  have hret : (call (.publish msg) s).1 = 0 := h
  show (if (call (.publish msg) s).1 ≠ 0 then _ else _ : StateM PublicClient Bool) _ = _
  rw [if_neg (not_not_intro hret)]
  rfl

lemma sendPublicQueue_failed (msg : String) (h : s.results s.calls.length ≠ 0) :
    sendPublicQueue 1 msg s =
      (false, s.after [.publish msg, .disconnect, .connect, .exchangeDeclare, .publish msg]) := by
  have hret : (call (.publish msg) s).1 ≠ 0 := h
  show (if (call (.publish msg) s).1 ≠ 0 then _ else _ : StateM PublicClient Bool) _ = _
  rw [if_pos hret]
  simp [bind_apply, map_apply, call, after]

lemma reconnetPublic_eq :
    reconnetPublic 1 s = (true, s.after [.disconnect, .connect, .exchangeDeclare]) := by
  simp [reconnetPublic, disconnetPublic, connetPublic, bind_apply, map_apply, call, after]

lemma heartbeatRound_published (heartbeat again : String) (h : s.results s.calls.length = 0) :
    heartbeatRound 1 heartbeat again s = ((), s.after [.publish heartbeat]) := by
  rw [heartbeatRound]
  simp only [bind, StateT.bind, sendPublicQueue_published heartbeat h]
  rfl

lemma heartbeatRound_failed (heartbeat again : String) (h : s.results s.calls.length ≠ 0) :
    heartbeatRound 1 heartbeat again s = ((), (sendPublicQueue 1 again
      ((s.after [.publish heartbeat, .disconnect, .connect, .exchangeDeclare,
        .publish heartbeat]).after [.disconnect, .connect, .exchangeDeclare])).2) := by
  rw [heartbeatRound]
  simp only [bind, StateT.bind, sendPublicQueue_failed heartbeat h]
  simp only [Bool.false_eq_true, if_false, StateT.bind, bind, reconnetPublic_eq]
  rfl

/-- A single send is as it should be: it publishes once at most, and disconnects after the `Publish`
that failed. -/
lemma sendPublicQueue_calls (s : PublicClient) (msg : String) :
    ∃ calls, (sendPublicQueue 1 msg s).2.calls = s.calls ++ calls ∧ calls.countP Published ≤ 1 ∧
      ∀ last, DisconnectsFailed last calls := by
  by_cases h : s.results s.calls.length = 0
  · rw [sendPublicQueue_published msg h]
    exact ⟨_, rfl, List.countP_le_length, fun _ => trivial⟩
  · rw [sendPublicQueue_failed msg h]
    refine ⟨_, rfl, ?_, fun _ => ⟨h, trivial⟩⟩
    rw [List.zipIdx_cons, List.map_cons, List.countP_cons_of_neg (by simpa [Published] using h)]
    -- of the others only the second `Publish` counts
    iterate 3
      rw [List.zipIdx_cons, List.map_cons, List.countP_cons_of_neg Bool.false_ne_true]
    exact List.countP_le_length

variable (results : ℕ → ℤ) (msg heartbeat again : String)

/-- A send reports what happened, exactly if the first `Publish` succeeds or the second fails. -/
lemma reports_iff : Reports msg (sendPublicQueue clientType msg (start results)) ↔
    clientType = 1 ∧ (results 0 = 0 ∨ results 4 ≠ 0) := by
  by_cases htype : clientType = 1
  · subst htype
    by_cases h0 : results 0 = 0
    · rw [sendPublicQueue_published msg h0]
      simp [Reports, after, start, h0]
    · rw [sendPublicQueue_failed msg h0]
      have h0' : ¬ 0 = results 0 := fun h => h0 h.symm
      simp [Reports, after, start, h0, h0', eq_comm]
  · rw [sendPublicQueue_other htype]
    simp [Reports, start, htype]

lemma round_iff : Round (heartbeatRound 1 heartbeat again (start results)).2.calls ↔
    results 0 = 0 ∨ results 4 ≠ 0 := by
  by_cases h0 : results 0 = 0
  · rw [heartbeatRound_published heartbeat again h0]
    exact iff_of_true ⟨List.countP_le_length, trivial⟩ (Or.inl h0)
  · rw [heartbeatRound_failed heartbeat again h0]
    generalize hs : ((start results).after _).after _ = s
    obtain ⟨calls, hcalls, hcount, hlast⟩ := sendPublicQueue_calls s again
    -- the first send, and the connecting again that `heartbeat_func` adds when it reports a failure
    have hbefore : s.calls = [(.publish heartbeat, results 0), (.disconnect, results 1),
        (.connect, results 2), (.exchangeDeclare, results 3), (.publish heartbeat, results 4),
        (.disconnect, results 5), (.connect, results 6), (.exchangeDeclare, results 7)] := by
      rw [← hs]
      rfl
    rw [hcalls, hbefore]
    constructor
    · exact fun hround => Or.inr hround.disconnects.2.1
    · intro h
      have h4 : results 4 ≠ 0 := h.resolve_left h0
      refine ⟨?_, h0, h4, hlast _⟩
      rw [List.countP_append]
      simpa [List.countP_cons, Published, h0, h4] using hcount

/-- Sends report what happened, and heartbeats go out once a round, exactly if the first `Publish`
succeeds or the one after connecting again fails. -/
theorem public_sends_iff :
    (Reports msg (sendPublicQueue clientType msg (start results)) ∧
      Round (heartbeatRound clientType heartbeat again (start results)).2.calls) ↔
      clientType = 1 ∧ (results 0 = 0 ∨ results 4 ≠ 0) := by
  rw [reports_iff]
  refine and_iff_left_of_imp fun h => ?_
  rw [h.1, round_iff]
  exact h.2

/-- The first `Publish` fails and all else goes well: the message is sent, the result is `false`,
and the round disconnects and publishes a second heartbeat. -/
theorem public_send_repeated :
    ¬ Reports "heartbeat" (sendPublicQueue 1 "heartbeat"
        (start fun n => if n = 0 then -3 else 0)) ∧
      (heartbeatRound 1 "heartbeat" "again" (start fun n => if n = 0 then -3 else 0)).2.calls =
        [(.publish "heartbeat", -3), (.disconnect, 0), (.connect, 0), (.exchangeDeclare, 0),
          (.publish "heartbeat", 0), (.disconnect, 0), (.connect, 0), (.exchangeDeclare, 0),
          (.publish "again", 0)] ∧
      ¬ Round (heartbeatRound 1 "heartbeat" "again"
        (start fun n => if n = 0 then -3 else 0)).2.calls := by
  refine ⟨?_, rfl, ?_⟩
  · rw [reports_iff]
    decide
  · rw [round_iff]
    decide

end PublicClient

/-! ### The same functions among the others -/

namespace ManagePc

/-- From this position the function makes these calls on `objRabbitmq`, and returns. -/
def Makes : ManagePc → List (CallName × ℤ) → Prop
  | pc, [] => pc.call = none
  | pc, (name, ret) :: calls => pc.call = some (.objRabbitmq, name) ∧ (pc.next ret).Makes calls

end ManagePc

def PublicClientCall.name : PublicClientCall → CallName
  | .publish _ => .publish
  | .disconnect => .disconnect
  | .connect => .connect
  | .exchangeDeclare => .exchangeDeclare

namespace PublicClient

lemma makes_sendPublicQueue (results : ℕ → ℤ) (msg : String) :
    ManagePc.sendPublicQueue.Makes ((sendPublicQueue 1 msg (start results)).2.calls.map
      fun c => (c.1.name, c.2)) := by
  by_cases h : results 0 = 0
  · rw [sendPublicQueue_published msg h]
    have hnext : ManagePc.sendPublicQueue.next (results 0) = .logging [] := by
      rw [ManagePc.next, if_neg (not_not_intro h)]
    refine ⟨rfl, ?_⟩
    show (ManagePc.sendPublicQueue.next (results 0)).Makes _
    rw [hnext]
    rfl
  · -- the four calls behind the failed one are made whatever they return
    rw [sendPublicQueue_failed msg h]
    have hnext : ManagePc.sendPublicQueue.next (results 0) =
        .logging [(.objRabbitmq, .disconnect), (.objRabbitmq, .connect),
          (.objRabbitmq, .exchangeDeclare), (.objRabbitmq, .publish)] := by
      rw [ManagePc.next, if_pos h]
    refine ⟨rfl, ?_⟩
    show (ManagePc.sendPublicQueue.next (results 0)).Makes _
    rw [hnext]
    exact ⟨rfl, rfl, rfl, rfl, rfl⟩

lemma makes_reconnetPublic (results : ℕ → ℤ) :
    ManagePc.reconnetPublic.Makes ((reconnetPublic 1 (start results)).2.calls.map
      fun c => (c.1.name, c.2)) := by
  rw [reconnetPublic_eq]
  exact ⟨rfl, rfl, rfl, rfl⟩

end PublicClient

end DHGateway
