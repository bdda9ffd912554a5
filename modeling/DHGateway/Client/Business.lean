import DHGateway.Core.Run

/-!
# The business queue

`client_manage`: any number of threads push messages with `send_business_queueEx`, one thread,
`sent_business_func`, takes them out and sends them with `send_business_queue`. A message is
removed from the list before it is sent, and the mutex of the list is held while it is sent. The
client type is `1`, which `server_manage` sets before the threads start.
-/

namespace DHGateway

/-- Where `send_business_queue` is: before the `Publish` of the connection in use, or, with
`_republic` set, before `Connect`, `ExchangeDeclare` or the `Publish` behind them. -/
inductive SendPc where
  | publish
  | connect
  | exchangeDeclare
  | republish
  deriving DecidableEq

/-- Where `sent_business_func` is: before one of the two tests of the list, in the wait, before
the lock, or in `send_business_queue` with the lock. -/
inductive ConsumerPc where
  | testEmpty
  | testNonempty
  | wait
  | lock
  | sending (pc : SendPc) (msg : String)
  deriving DecidableEq

/-- The business queue of a client. The last two fields record what was pushed and the messages
for which a `Publish` returned `0`, both in order. -/
structure Business where
  businessMsgList : List String
  /-- `_business_msg_list_ev` -/
  businessMsgListEv : ℕ
  /-- `_disconnet_ev` -/
  disconnetEv : ℕ
  republic : Bool
  consumer : ConsumerPc
  pushed : List String
  published : List String

/-- What can happen next: a push, or the next step of the consumer with the result of the call
that it makes, if it makes one. -/
inductive BusinessAction where
  | sendBusinessQueueEx (msg : String)
  | consumer (ret : ℤ)

namespace Business

/-- After `init_client`. -/
def start : Business :=
  ⟨[], 0, 0, false, .testEmpty, [], []⟩

def current (s : Business) : Option String :=
  match s.consumer with
  | .sending _ msg => some msg
  | _ => none

/-- A `Publish` of the current message has returned `0`. -/
def delivered (s : Business) (msg : String) : Business :=
  { s with republic := false, consumer := .testEmpty, published := s.published ++ [msg] }

/-- The next step of `send_business_queue`. All ways out of it return `true`. -/
def sendBusinessQueue (s : Business) (pc : SendPc) (msg : String) (ret : ℤ) : Business :=
  match pc with
  | .publish =>
    if ret ≠ 0 then
      { s with
        republic := true
        disconnetEv := s.disconnetEv + 1
        consumer := .sending .connect msg }
    else s.delivered msg
  | .connect =>
    if ret ≠ 0 then { s with consumer := .testEmpty }
    else { s with consumer := .sending .exchangeDeclare msg }
  | .exchangeDeclare =>
    if ret ≠ 0 then { s with consumer := .testEmpty }
    else { s with consumer := .sending .republish msg }
  | .republish =>
    if ret ≠ 0 then { s with consumer := .testEmpty }
    else s.delivered msg

/-- The next step of `sent_business_func`; `none` while it waits. -/
def sentBusinessFunc (s : Business) (ret : ℤ) : Option Business :=
  match s.consumer with
  | .testEmpty =>
    some { s with consumer := if s.businessMsgList = [] then .wait else .testNonempty }
  | .testNonempty =>
    some { s with consumer := if s.businessMsgList = [] then .testEmpty else .lock }
  | .wait =>
    if s.businessMsgListEv = 0 then none
    else some { s with businessMsgListEv := s.businessMsgListEv - 1, consumer := .testEmpty }
  | .lock =>
    match s.businessMsgList with
    | [] => none
    | msg :: rest =>
      some { s with
        businessMsgList := rest
        consumer := .sending (if s.republic then .connect else .publish) msg }
  | .sending pc msg => some (s.sendBusinessQueue pc msg ret)

/-- One step. A push waits for the mutex of the list. -/
def step (s : Business) : BusinessAction → Option Business
  | .sendBusinessQueueEx msg =>
    if s.current.isSome then none
    else some { s with
      businessMsgList := s.businessMsgList ++ [msg]
      businessMsgListEv := s.businessMsgListEv + 1
      pushed := s.pushed ++ [msg] }
  | .consumer ret => s.sentBusinessFunc ret

/-- Every message pushed was published, is being sent, or waits, in this order. -/
def Conserved (s : Business) : Prop :=
  s.pushed = s.published ++ s.current.toList ++ s.businessMsgList

instance (s : Business) : Decidable s.Conserved := by
  unfold Conserved; infer_instance

/-- Every call of the republish path, which `_republic` opens, returns `0`. -/
def RepublishOk (s : Business) : BusinessAction → Prop
  | .consumer ret =>
    match s.consumer with
    | .sending .publish _ => True
    | .sending _ _ => ret = 0
    | _ => True
  | _ => True

/-- What a step of `send_business_queue` does with the message: it keeps sending it, delivers it,
or drops it because a call of the republish path failed. -/
lemma sendBusinessQueue_cases (s : Business) (pc : SendPc) (msg : String) (ret : ℤ) :
    let t := s.sendBusinessQueue pc msg ret
    t.pushed = s.pushed ∧ t.businessMsgList = s.businessMsgList ∧
    ((t.current = some msg ∧ t.published = s.published ∧ (pc = .publish ∨ ret = 0)) ∨
      (t.current = none ∧ t.published = s.published ++ [msg] ∧ (pc = .publish ∨ ret = 0)) ∨
      (t.current = none ∧ t.published = s.published ∧ pc ≠ .publish ∧ ret ≠ 0)) := by
  by_cases hret : ret = 0 <;> cases pc <;>
    simp [sendBusinessQueue, delivered, current, hret]

lemma republishOk_iff {s : Business} {pc : SendPc} {msg : String} {ret : ℤ}
    (hc : s.consumer = .sending pc msg) :
    s.RepublishOk (.consumer ret) ↔ pc = .publish ∨ ret = 0 := by
  simp only [RepublishOk, hc]
  cases pc <;> simp

/-- What a step of the consumer does: it moves on without a message, takes the next one out of the
list, or is a step of `send_business_queue`. -/
lemma sentBusinessFunc_cases {s t : Business} {ret : ℤ} (h : s.sentBusinessFunc ret = some t) :
    (s.current = none ∧ t.current = none ∧ t.pushed = s.pushed ∧ t.published = s.published ∧
      t.businessMsgList = s.businessMsgList) ∨
    (s.current = none ∧ ∃ msg, t.current = some msg ∧ t.pushed = s.pushed ∧
      t.published = s.published ∧ s.businessMsgList = msg :: t.businessMsgList) ∨
    ∃ pc msg, s.consumer = .sending pc msg ∧ t = s.sendBusinessQueue pc msg ret := by
  rw [sentBusinessFunc] at h
  cases hc : s.consumer with
  | testEmpty =>
    simp only [hc, Option.some.injEq] at h
    subst h
    refine Or.inl ⟨by simp [current, hc], ?_, rfl, rfl, rfl⟩
    simp only [current]
    split_ifs <;> rfl
  | testNonempty =>
    simp only [hc, Option.some.injEq] at h
    subst h
    refine Or.inl ⟨by simp [current, hc], ?_, rfl, rfl, rfl⟩
    simp only [current]
    split_ifs <;> rfl
  | wait =>
    simp only [hc] at h
    split_ifs at h
    rw [← Option.some.inj h]
    exact Or.inl ⟨by simp [current, hc], rfl, rfl, rfl, rfl⟩
  -- the only position in which a message leaves the list
  | lock =>
    simp only [hc] at h
    split at h
    · exact nomatch h
    · rename_i msg rest hl
      rw [← Option.some.inj h]
      exact Or.inr (Or.inl ⟨by simp [current, hc], msg, rfl, rfl, rfl, hl⟩)
  | sending pc msg =>
    simp only [hc, Option.some.injEq] at h
    exact Or.inr (Or.inr ⟨pc, msg, rfl, h.symm⟩)

lemma Conserved.step {s s' : Business} {act : BusinessAction} (h : s.Conserved)
    (hok : s.RepublishOk act) (hs : s.step act = some s') : s'.Conserved := by
  cases act with
  | sendBusinessQueueEx msg =>
    simp only [Business.step] at hs
    split_ifs at hs
    rw [← Option.some.inj hs]
    show s.pushed ++ [msg] = s.published ++ s.current.toList ++ (s.businessMsgList ++ [msg])
    rw [h, List.append_assoc]
  | consumer ret =>
    rw [Conserved] at h ⊢
    rcases sentBusinessFunc_cases hs with ⟨hcur, hcur', hpushed, hpub, hlist⟩ |
      ⟨hcur, msg, hcur', hpushed, hpub, hlist⟩ | ⟨pc, msg, hc, rfl⟩
    · rw [hpushed, h, hpub, hlist, hcur, hcur']
    · -- the message goes from the head of the list to the consumer
      rw [hpushed, h, hpub, hlist, hcur, hcur']
      simp
    · have hcur : s.current = some msg := by simp [current, hc]
      obtain ⟨hpushed, hlist, hcases⟩ := s.sendBusinessQueue_cases pc msg ret
      rw [hpushed, hlist, h, hcur]
      rcases hcases with ⟨hcur', hpub, _⟩ | ⟨hcur', hpub, _⟩ | ⟨_, _, hpc, hret⟩
      · rw [hcur', hpub]
      · rw [hcur', hpub]
        simp
      · rcases (republishOk_iff hc).mp hok with hpc' | hret'
        · exact absurd hpc' hpc
        · exact absurd hret' hret

/-- A failed call of the republish path loses the message. -/
lemma Conserved.lost {s s' : Business} {act : BusinessAction} (h : s.Conserved)
    (hbad : ¬ s.RepublishOk act) (hs : s.step act = some s') : ¬ s'.Conserved := by
  cases act with
  | sendBusinessQueueEx msg => exact absurd trivial hbad
  | consumer ret =>
    obtain ⟨pc, msg, hc⟩ : ∃ pc msg, s.consumer = .sending pc msg := by
      cases hc : s.consumer with
      | sending pc msg => exact ⟨pc, msg, rfl⟩
      | _ => exact absurd (by simp [RepublishOk, hc]) hbad
    rw [republishOk_iff hc, not_or] at hbad
    have hcur : s.current = some msg := by simp [current, hc]
    simp only [Business.step, sentBusinessFunc, hc] at hs
    rw [← Option.some.inj hs]
    rw [Conserved, hcur] at h
    obtain ⟨hpushed, hlist, hcases⟩ := s.sendBusinessQueue_cases pc msg ret
    rw [Conserved, hpushed, hlist, h]
    rcases hcases with ⟨_, _, hpc | hret⟩ | ⟨_, _, hpc | hret⟩ | ⟨hcur', hpub, _⟩
    · exact absurd hpc hbad.1
    · exact absurd hret hbad.2
    · exact absurd hpc hbad.1
    · exact absurd hret hbad.2
    · -- the two sides differ in length
      rw [hcur', hpub]
      intro heq
      have := congrArg List.length heq
      simp at this

/-- A message is lost in a run exactly if a call of the republish path fails in it. -/
theorem conserved_iff {as : List BusinessAction} {t : Business}
    (hrun : Run.run step start as = some t) :
    Run.Always step Conserved start as ↔ Run.Meets step RepublishOk start as :=
  Run.always_iff_meets (I := Conserved) (fun _ h => h) (fun _ _ _ h hok hs => h.step hok hs)
    (fun _ _ _ h hbad hs => h.lost hbad hs) rfl hrun

/-- A push of `m1`, and the consumer takes it and fails to publish it. -/
def failedPublish : List BusinessAction :=
  [.sendBusinessQueueEx "m1", .consumer 0, .consumer 0, .consumer 0, .consumer (-3)]

/-- The reconnect after the failed `Publish` fails too, and the message is nowhere. -/
theorem failed_reconnect_loses_message :
    ∃ t, Run.run step start (failedPublish ++ [.consumer (-3)]) = some t ∧
      t.pushed = ["m1"] ∧ t.published = [] ∧ t.current = none ∧ t.businessMsgList = [] ∧
      ¬ t.Conserved := by
  refine ⟨_, rfl, rfl, rfl, rfl, rfl, by decide⟩

/-- After a reconnect that succeeds the message is published and none is lost on the way. -/
theorem conserved_iff_reconnect : Run.Always step Conserved start
    (failedPublish ++ [.consumer 0, .consumer 0, .consumer 0]) := by
  refine (conserved_iff rfl).mpr ?_
  exact Run.meets_cons trivial rfl (Run.meets_cons trivial rfl (Run.meets_cons trivial rfl
    (Run.meets_cons trivial rfl (Run.meets_cons trivial rfl (Run.meets_cons rfl rfl
      (Run.meets_cons rfl rfl (Run.meets_cons rfl rfl trivial)))))))

end Business

end DHGateway
