import DHGateway.Client.Consumer

/-!
# The envelopes of received messages

Each pass of the loop of `rabbitmqClient::Consumer` has an envelope: `amqp_consume_message` fills
it when it succeeds, its body is copied, and `amqp_destroy_envelope` releases it. Envelopes are
numbered by the calls of `amqp_consume_message`.
-/

namespace DHGateway

inductive EnvelopeEvent where
  | filled (n : ℕ)
  | readBody (n : ℕ)
  | destroyed (n : ℕ)
  deriving DecidableEq

def EnvelopeEvent.envelope : EnvelopeEvent → ℕ
  | .filled n | .readBody n | .destroyed n => n

/-- What `amqp_consume_message` comes to: a message with the bytes of its body and the result of
the `amqp_basic_nack` that may follow; or a failure, as in `Consumed`. -/
inductive Received where
  | message (body : List UInt8) (nack : ℤ)
  | failed (rpcReply : Reply) (libraryError : ℤ)

def Received.consumed (parse : List UInt8 → Document) : Received → Consumed
  | .message body nack => .message (parse body) nack
  | .failed rpcReply libraryError => .failed rpcReply libraryError

def Received.HasBody : Received → Prop
  | .message body _ => body ≠ []
  | .failed _ _ => False

/-- A call of `Consumer` in progress, with its calls of `amqp_consume_message` and what happened to
their envelopes; `ret` is the value returned from inside the loop. -/
structure Receiving where
  consumption : Consumption
  attempts : ℕ
  events : List EnvelopeEvent
  ret : Option ℤ

namespace Receiving

/-- The beginning of the loop, on a channel with what was consumed there before. -/
def start (c : Consumption) : Receiving := ⟨c, 0, [], none⟩

/-- What a pass of the loop does to its envelope. A body without bytes does not end the pass. -/
def passEvents (n : ℕ) : Received → List EnvelopeEvent
  | .failed _ _ => [.destroyed n]
  | .message body _ =>
    [.filled n, .readBody n] ++ (if body = [] then [.destroyed n] else []) ++ [.destroyed n]

section

variable (serial : String) (parse : List UInt8 → Document) (filterate timeout : Bool)

/-- One pass of the loop, as long as messages are missing and the call has not returned. -/
def step (s : Receiving) (a : Received) : Option Receiving :=
  if s.ret ≠ none ∨ s.consumption.getNum = 0 then none
  else
    let (ret, c) := s.consumption.receive serial filterate timeout (a.consumed parse)
    some ⟨c, s.attempts + 1, s.events ++ passEvents s.attempts a, ret⟩

/-- The passes are those of the call without envelopes. -/
lemma receiveAll_eq {s t : Receiving} {as : List Received} (hs : s.ret = none)
    (hrun : Run.run (step serial parse filterate timeout) s as = some t) :
    Consumption.receiveAll serial filterate timeout s.consumption
        (as.map (Received.consumed parse)) =
      (t.ret.or (if t.consumption.getNum = 0 then some 0 else none), t.consumption) := by
  induction as generalizing s with
  | nil =>
    rw [← Option.some.inj hrun, hs]
    rfl
  | cons a as ih =>
    obtain ⟨s', hstep, hrun⟩ := Run.run_cons.mp hrun
    simp only [step] at hstep
    split_ifs at hstep with hgo
    rw [not_or] at hgo
    rw [List.map_cons, Consumption.receiveAll, if_neg hgo.2]
    generalize s.consumption.receive serial filterate timeout (a.consumed parse) = r at hstep ⊢
    obtain ⟨ret, c⟩ := r
    cases Option.some.inj hstep
    cases ret with
    | none => exact ih rfl hrun
    | some ret =>
      -- the call has returned, and there are no more passes
      cases as with
      | nil =>
        rw [← Option.some.inj hrun]
        rfl
      | cons b bs =>
        obtain ⟨_, hnext, _⟩ := Run.run_cons.mp hrun
        rw [step, if_pos (Or.inl (Option.some_ne_none ret))] at hnext
        cases hnext

end

/-- Each envelope that was filled has been destroyed once and its body is not read after that, and
no other one was destroyed. -/
structure ReleasedOnce (events : List EnvelopeEvent) : Prop where
  once : ∀ n, .filled n ∈ events → events.count (.destroyed n) = 1
  filled : ∀ n, .destroyed n ∈ events → .filled n ∈ events
  notRead : events.Pairwise fun e e' => ∀ n, e = .destroyed n → e' ≠ .readBody n

lemma envelope_of_mem_passEvents {n : ℕ} {a : Received} {e : EnvelopeEvent}
    (h : e ∈ passEvents n a) : e.envelope = n := by
  cases a with
  | failed rpcReply libraryError =>
    rw [List.mem_singleton.mp h]
    rfl
  | message body nack =>
    have hmem : e = .filled n ∨ e = .readBody n ∨ e = .destroyed n := by
      rw [passEvents] at h
      split_ifs at h <;> simpa using h
    rcases hmem with rfl | rfl | rfl <;> rfl

/-- The envelopes so far have been released, and they are those of the calls so far. -/
structure Released (s : Receiving) : Prop where
  released : ReleasedOnce s.events
  past : ∀ e ∈ s.events, e.envelope < s.attempts

lemma Released.not_mem {s : Receiving} (h : s.Released) {e : EnvelopeEvent}
    (he : e.envelope = s.attempts) : e ∉ s.events := by
  intro hmem
  have hlt := h.past e hmem
  rw [he] at hlt
  exact lt_irrefl _ hlt

lemma released_start (c : Consumption) : (start c).Released where
  released := ⟨fun _ h => absurd h List.not_mem_nil, fun _ h => absurd h List.not_mem_nil,
    List.Pairwise.nil⟩
  past := fun _ h => absurd h List.not_mem_nil

lemma Released.append {s : Receiving} (h : s.Released) {body : List UInt8} (nack : ℤ)
    (hbody : body ≠ []) :
    ReleasedOnce (s.events ++ passEvents s.attempts (.message body nack)) := by
  have hevents : passEvents s.attempts (.message body nack) =
      [.filled s.attempts, .readBody s.attempts, .destroyed s.attempts] := by
    rw [passEvents, if_neg hbody]
    rfl
  rw [hevents]
  constructor
  · intro n hn
    rw [List.count_append]
    -- an envelope is numbered by its pass, so that the earlier events are of others
    by_cases hnow : n = s.attempts
    · have hfresh : .destroyed n ∉ s.events := h.not_mem (e := .destroyed n) hnow
      rw [List.count_eq_zero_of_not_mem hfresh, hnow]
      simp
    · have hbefore : .filled n ∈ s.events := by simpa [hnow] using hn
      rw [h.released.once n hbefore]
      simp [Ne.symm hnow]
  · intro n hn
    by_cases hnow : n = s.attempts
    · simp [hnow]
    · have hbefore : .destroyed n ∈ s.events := by simpa [hnow] using hn
      exact List.mem_append_left _ (h.released.filled n hbefore)
  · rw [List.pairwise_append]
    refine ⟨h.released.notRead, by simp, ?_⟩
    rintro e he e' he' n rfl rfl
    have hnow : n = s.attempts := by simpa using he'
    exact h.not_mem (e := .destroyed n) hnow he

/-- An empty body is released twice, and what was not filled is released too. -/
lemma Released.not_append {s : Receiving} (h : s.Released) {a : Received} (ha : ¬ a.HasBody) :
    ¬ ReleasedOnce (s.events ++ passEvents s.attempts a) := by
  intro hreleased
  cases a with
  | message body nack =>
    have hempty : body = [] := not_not.mp ha
    have hcount := hreleased.once s.attempts (by simp [passEvents])
    rw [List.count_append, List.count_eq_zero_of_not_mem (h.not_mem rfl), passEvents,
      if_pos hempty] at hcount
    simp at hcount
  | failed rpcReply libraryError =>
    have hfilled := hreleased.filled s.attempts (by simp [passEvents])
    rcases List.mem_append.mp hfilled with hbefore | hnow
    · exact h.not_mem rfl hbefore
    · cases List.mem_singleton.mp hnow

section

variable (serial : String) (parse : List UInt8 → Document) (filterate timeout : Bool)

variable {serial parse filterate timeout} in
lemma step_eq {s s' : Receiving} {a : Received}
    (h : s.step serial parse filterate timeout a = some s') :
    s'.events = s.events ++ passEvents s.attempts a ∧ s'.attempts = s.attempts + 1 := by
  simp only [step] at h
  split_ifs at h
  rw [← Option.some.inj h]
  exact ⟨rfl, rfl⟩

/-- In a call of `Consumer` every envelope that was filled is released once, and no other one,
exactly if all results of `amqp_consume_message` are messages with a body. -/
theorem releasedOnce_iff (c : Consumption) {as : List Received} {t : Receiving}
    (hrun : Run.run (step serial parse filterate timeout) (start c) as = some t) :
    Run.Always (step serial parse filterate timeout) (fun s => ReleasedOnce s.events) (start c) as ↔
      ∀ a ∈ as, a.HasBody := by
  rw [← Run.meets_iff_forall hrun]
  refine Run.always_iff_meets (I := Released) (fun _ h => h.released) ?_ ?_ (released_start c) hrun
  · -- every envelope of the record is numbered below the next call
    intro s a s' h ha hs
    obtain ⟨hevents, hattempts⟩ := step_eq hs
    cases a with
    | failed rpcReply libraryError => exact absurd ha id
    | message body nack =>
      refine ⟨hevents ▸ h.append nack ha, fun e he => ?_⟩
      rw [hattempts, Nat.lt_succ_iff]
      rw [hevents] at he
      rcases List.mem_append.mp he with he | he
      · exact (h.past e he).le
      · exact (envelope_of_mem_passEvents he).le
  · intro s a s' h ha hs
    rw [(step_eq hs).1]
    exact h.not_append ha

end

/-- One message with a body is received, and its envelope is released. -/
theorem releasedOnce_iff_body :
    Run.Always (step "a1" (fun _ => none) false true) (fun s => ReleasedOnce s.events)
      (start { Consumption.new with getNum := 1 }) [.message [0x68, 0x69] 0] :=
  (releasedOnce_iff "a1" (fun _ => none) false true _ rfl).mpr (by
    rw [List.forall_mem_singleton]
    exact List.cons_ne_nil _ _)

/-- A message without a body is released twice; a timeout releases an envelope that was never
filled. -/
theorem not_releasedOnce :
    (∃ t, Run.run (step "a1" (fun _ => none) true false)
        (start { Consumption.new with getNum := 1 }) [.message [] 0] = some t ∧
      t.ret = none ∧ t.events = [.filled 0, .readBody 0, .destroyed 0, .destroyed 0] ∧
      ¬ ReleasedOnce t.events) ∧
    ∃ t, Run.run (step "a1" (fun _ => none) false true)
        (start { Consumption.new with getNum := 1 }) [.failed .normal (-13)] = some t ∧
      t.ret = some timeoutError ∧ t.events = [.destroyed 0] ∧ ¬ ReleasedOnce t.events := by
  constructor
  · exact ⟨_, rfl, rfl, rfl, fun h => absurd (h.once 0 (by decide)) (by decide)⟩
  · exact ⟨_, rfl, rfl, rfl, fun h => absurd (h.filled 0 (by decide)) (by decide)⟩

end Receiving

end DHGateway
