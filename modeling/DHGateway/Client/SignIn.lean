import DHGateway.Client.ReconnectDepth

/-!
# Signing in

`start_server` starts the thread that receives and waits for its two events before it announces the
recorders. That thread reads the names of the business queue from the public queue, connects the
clients of the business queue in `connet_business`, which starts the thread that sends, and then
receives requests, whose answers are sent too. No lock protects the names.
-/

namespace DHGateway

/-- Where `server_manage::start_server` is after it has started its threads. -/
inductive StartServerPc where
  | waitPublic
  | waitBusiness
  | upload
  | returned
  deriving DecidableEq

/-- What happens in the order in which it does: a message of the public queue is handled, after
which there are these names of the business queue; a call on a client of that queue, with the
names then; a push to the list of messages for it. -/
inductive SignInEvent where
  | handled (doc : Document) (names : DynamicNames)
  | call (o : ClientObject) (c : CallName) (names : DynamicNames)
  | push (msg : String)

/-- The threads of a gateway that signs in. -/
structure SignIn where
  main : StartServerPc
  /-- `_public_ev` -/
  publicEv : ℕ
  /-- `_business_ev` -/
  businessEv : ℕ
  receiver : ReceivingThread
  /-- the calls of `connet_business` that the receiving thread still makes -/
  connecting : List (ClientObject × CallName)
  /-- there is a `_send_msg_thread` -/
  sender : Bool
  business : Business
  /-- what was received from the business queue -/
  requests : List Document
  log : List SignInEvent

/-- What can happen next: the receiving thread goes on, as in the model of its stack, or makes the
next call of `connet_business`; `start_server` goes on, with the recorder that it announces next;
a handler of the `i`-th request sends something; or `sent_business_func` goes on. -/
inductive SignInAction where
  | returns (ret : ℤ) (docs : List Document)
  | proceed
  | connetBusiness
  | startServer (announced : Option String)
  | answer (i : ℕ) (msg : String)
  | sentBusiness (ret : ℤ)

/-- The calls of `connet_business`. -/
def connetBusinessCalls : List (ClientObject × CallName) :=
  [(.objDynamicRabbitmqRecv, .connect), (.objDynamicRabbitmqRecv, .exchangeDeclare),
    (.objDynamicRabbitmqSend, .connect), (.objDynamicRabbitmqSend, .exchangeDeclare)]

example : ManagePc.connetBusiness = .logging connetBusinessCalls := rfl

namespace SignIn

/-- `start_server` has sent the sign-in, and its threads run. -/
def start (names : DynamicNames) : SignIn :=
  ⟨.waitPublic, 0, 0, .start .startPublicQueue names, [], false, .start, [], []⟩

/-- `connet_business` for a message of the public queue that was handled. -/
def connets : Document × PublicCall → List (ClientObject × CallName)
  | (_, .connetBusiness _) => connetBusinessCalls
  | (_, .sendPublicQueue) => []

/-- A call of the receiving thread has returned. A message of the public queue is handled at once,
a request is for a handler. -/
def returned (s : SignIn) (ret : ℤ) (docs : List Document) (receiver : ReceivingThread) : SignIn :=
  match s.receiver.stack with
  | ⟨.startPublicQueue, .consumer⟩ :: _ =>
    let queue := docs.foldl PublicQueue.handle ⟨s.receiver.whileFlag, s.receiver.names, []⟩
    { s with
      receiver
      connecting := queue.calls.flatMap connets
      log := s.log ++ docs.map (.handled · receiver.names) }
  | ⟨.startPublicQueue, _⟩ :: _ => { s with receiver }
  | ⟨_, .calls (c :: _)⟩ :: _ =>
    { s with receiver, log := s.log ++ [.call .objDynamicRabbitmqRecv c s.receiver.names] }
  | _ =>
    { s with
      receiver
      requests := if ret = 0 then s.requests ++ docs else s.requests
      log := s.log ++ [.call .objDynamicRabbitmqRecv .consumer s.receiver.names] }

/-- A call of the receiving thread returns. `Consumer` is asked for one message. -/
def returns (s : SignIn) (ret : ℤ) (docs : List Document) : Option SignIn :=
  if s.connecting ≠ [] ∨ 1 < docs.length then none
  else (s.receiver.returns ret docs).map (s.returned ret docs)

/-- The receiving thread goes on; it signals an event when a queue is bound. -/
def proceed (s : SignIn) : Option SignIn :=
  if s.connecting ≠ [] then none
  else s.receiver.proceed.map fun receiver =>
    match s.receiver.stack with
    | ⟨.startPublicQueue, .calls []⟩ :: _ => { s with receiver, publicEv := s.publicEv + 1 }
    | ⟨.startBusinessQueue, .calls []⟩ :: _ => { s with receiver, businessEv := s.businessEv + 1 }
    | _ => { s with receiver }

/-- The next call of `connet_business`, which starts the other threads behind its last one. -/
def connetBusiness (s : SignIn) : Option SignIn :=
  match s.connecting with
  | [] => none
  | (o, c) :: calls =>
    some { s with
      connecting := calls
      sender := s.sender || calls.isEmpty
      log := s.log ++ [.call o c s.receiver.names] }

/-- `send_business_queueEx`. -/
def push (s : SignIn) (msg : String) : Option SignIn :=
  (s.business.step (.sendBusinessQueueEx msg)).map fun business =>
    { s with business, log := s.log ++ [.push msg] }

/-- `start_server` goes on. -/
def startServer (s : SignIn) (announced : Option String) : Option SignIn :=
  match s.main with
  | .waitPublic =>
    if s.publicEv = 0 then none
    else some { s with publicEv := s.publicEv - 1, main := .waitBusiness }
  | .waitBusiness =>
    if s.businessEv = 0 then none
    else some { s with businessEv := s.businessEv - 1, main := .upload }
  | .upload =>
    match announced with
    | some msg => s.push msg
    | none => some { s with main := .returned }
  | .returned => none

/-- The call that `sent_business_func` makes next. -/
def sends (s : SignIn) : List SignInEvent :=
  match s.business.consumer with
  | .sending pc _ =>
    ((ManagePc.sendBusinessQueue pc).call.map fun r => .call r.1 r.2 s.receiver.names).toList
  | _ => []

def step (s : SignIn) : SignInAction → Option SignIn
  | .returns ret docs => s.returns ret docs
  | .proceed => s.proceed
  | .connetBusiness => s.connetBusiness
  | .startServer announced => s.startServer announced
  | .answer i msg => do
    let _ ← s.requests[i]?
    s.push msg
  | .sentBusiness ret =>
    if s.sender = false then none
    else (s.business.step (.consumer ret)).map fun business =>
      { s with business, log := s.log ++ s.sends }

end SignIn

/-! ### The order of signing in -/

/-- The business queue is connected to, declared and bound. -/
def openingCalls : List (ClientObject × CallName) :=
  connetBusinessCalls ++
    [(.objDynamicRabbitmqRecv, .queueDeclare), (.objDynamicRabbitmqRecv, .queueBind)]

def SignInEvent.calls (names : DynamicNames) (cs : List (ClientObject × CallName)) :
    List SignInEvent :=
  cs.map fun r => .call r.1 r.2 names

def SignInEvent.Ignored (e : SignInEvent) : Prop :=
  ∃ doc names, e = .handled doc names ∧ ¬ IsSignIn doc

def SignInEvent.Uses (names : DynamicNames) (e : SignInEvent) : Prop :=
  (∃ msg, e = .push msg) ∨ ∃ o c, e = .call o c names

/-- What signing in looks like: only messages of the public queue, up to a sign-in; with the names
that this leaves, then the calls that open the business queue, in their order and nothing between
them; and anything else after that, with the same names. -/
inductive SignsIn : List SignInEvent → Prop where
  | waiting {pub : List SignInEvent} (hpub : ∀ e ∈ pub, e.Ignored) : SignsIn pub
  | opening {pub : List SignInEvent} (hpub : ∀ e ∈ pub, e.Ignored) {doc : Document}
    (hdoc : IsSignIn doc) {names : DynamicNames} {cs : List (ClientObject × CallName)}
    (hcs : cs <+: openingCalls) :
    SignsIn (pub ++ .handled doc names :: SignInEvent.calls names cs)
  | opened {pub : List SignInEvent} (hpub : ∀ e ∈ pub, e.Ignored) {doc : Document}
    (hdoc : IsSignIn doc) {names : DynamicNames} {es : List SignInEvent}
    (hes : ∀ e ∈ es, e.Uses names) :
    SignsIn (pub ++ .handled doc names :: (SignInEvent.calls names openingCalls ++ es))

namespace SignIn

variable {s s' : SignIn}

/-! ### Before the business queue is bound -/

structure Calm (s : SignIn) : Prop where
  main : s.main = .waitPublic ∨ s.main = .waitBusiness
  businessEv : s.businessEv = 0
  requests : s.requests = []
  list : s.business.businessMsgList = []
  consumer : s.business.consumer = .testEmpty ∨ s.business.consumer = .wait

/-- The other threads leave the receiving thread alone, and have nothing to send. -/
structure Stays (s s' : SignIn) : Prop where
  calm : s'.Calm
  receiver : s'.receiver = s.receiver
  connecting : s'.connecting = s.connecting
  log : s'.log = s.log
  waits : s'.main = .waitPublic → s.main = .waitPublic ∧ s'.publicEv = s.publicEv

lemma Calm.startServer {announced : Option String} (h : s.Calm)
    (hs : s.startServer announced = some s') : s.Stays s' := by
  rcases h.main with hmain | hmain
  · simp only [SignIn.startServer, hmain] at hs
    split_ifs at hs
    rw [← Option.some.inj hs]
    exact ⟨⟨Or.inr rfl, h.businessEv, h.requests, h.list, h.consumer⟩, rfl, rfl, rfl,
      fun hwait => nomatch hwait⟩
  · simp [SignIn.startServer, hmain, h.businessEv] at hs

lemma Calm.sentBusiness {ret : ℤ} (h : s.Calm) (hs : s.step (.sentBusiness ret) = some s') :
    s.Stays s' := by
  simp only [step] at hs
  split_ifs at hs
  obtain ⟨business, hb, rfl⟩ := Option.map_eq_some_iff.mp hs
  -- the consumer is at the test of an empty list or in the wait behind it
  have hsends : s.sends = [] := by
    rcases h.consumer with hc | hc <;> rw [sends, hc]
  have hcalm : business.businessMsgList = [] ∧
      (business.consumer = .testEmpty ∨ business.consumer = .wait) := by
    rcases h.consumer with hc | hc
    · simp only [Business.step, Business.sentBusinessFunc, hc, h.list, if_true,
        Option.some.injEq] at hb
      rw [← hb]
      exact ⟨rfl, Or.inr rfl⟩
    · simp only [Business.step, Business.sentBusinessFunc, hc] at hb
      split_ifs at hb
      rw [← Option.some.inj hb]
      exact ⟨h.list, Or.inl rfl⟩
  refine ⟨⟨h.main, h.businessEv, h.requests, hcalm.1, hcalm.2⟩, rfl, rfl, ?_,
    fun hwait => ⟨hwait, rfl⟩⟩
  show s.log ++ s.sends = s.log
  rw [hsends, List.append_nil]

def OfReceiver : SignInAction → Prop
  | .returns _ _ | .proceed | .connetBusiness => True
  | .startServer _ | .answer _ _ | .sentBusiness _ => False

lemma Calm.stays {a : SignInAction} (h : s.Calm) (ha : ¬ OfReceiver a)
    (hs : s.step a = some s') : s.Stays s' := by
  cases a with
  | returns | proceed | connetBusiness => exact absurd trivial ha
  | startServer announced => exact h.startServer hs
  | answer i msg => simp [step, h.requests] at hs
  | sentBusiness ret => exact h.sentBusiness hs

structure Waiting (s : SignIn) : Prop where
  calm : s.Calm
  stack : ∃ pc, s.receiver.stack = [⟨.startPublicQueue, pc⟩] ∧ pc ≠ .left ∧
    (s.main = .waitPublic → 0 < s.publicEv ∨ ∃ left, pc = .calls left)
  flag : s.receiver.whileFlag = true
  connecting : s.connecting = []
  log : ∀ e ∈ s.log, e.Ignored

/-- The calls `cs` of those that open the business queue were made. -/
inductive At (s : SignIn) : List (ClientObject × CallName) → Prop where
  | connecting {cs : List (ClientObject × CallName)} (hne : s.connecting ≠ [])
    (hcs : cs ++ s.connecting = connetBusinessCalls)
    (hstack : s.receiver.stack = [⟨.startPublicQueue, .test⟩])
    (hflag : s.receiver.whileFlag = false) : At s cs
  | connected (hnil : s.connecting = [])
    (hstack : s.receiver.stack = [⟨.startPublicQueue, .test⟩] ∨
      s.receiver.stack = [⟨.startPublicQueue, .left⟩])
    (hflag : s.receiver.whileFlag = false) : At s connetBusinessCalls
  | binding {done left : List CallName} (hnil : s.connecting = [])
    (hcalls : done ++ left = [.queueDeclare, .queueBind])
    (hstack : s.receiver.stack =
      [⟨.startBusinessQueue, .calls left⟩, ⟨.startPublicQueue, .left⟩]) :
    At s (connetBusinessCalls ++ done.map fun c => (.objDynamicRabbitmqRecv, c))

/-- A sign-in was handled, and the business queue is not bound yet. -/
structure Opening (s : SignIn) : Prop where
  calm : s.Calm
  heard : s.main = .waitPublic → 0 < s.publicEv
  log : ∃ pub doc cs, (∀ e ∈ pub, e.Ignored) ∧ IsSignIn doc ∧ s.At cs ∧
    s.log = pub ++ .handled doc s.receiver.names :: SignInEvent.calls s.receiver.names cs

/-- The business queue is bound, and `start_server` can go on. -/
structure Serving (s : SignIn) : Prop where
  stack : ∃ a callers, s.receiver.stack = a :: callers ∧ a.function ≠ .startPublicQueue
  connecting : s.connecting = []
  log : ∃ pub doc es, (∀ e ∈ pub, e.Ignored) ∧ IsSignIn doc ∧
    (∀ e ∈ es, e.Uses s.receiver.names) ∧
    s.log = pub ++ .handled doc s.receiver.names ::
      (SignInEvent.calls s.receiver.names openingCalls ++ es)
  waitPublic : s.main = .waitPublic → 0 < s.publicEv ∧ 0 < s.businessEv
  waitBusiness : s.main = .waitBusiness → 0 < s.businessEv

inductive Inv (s : SignIn) : Prop where
  | waiting (h : s.Waiting)
  | opening (h : s.Opening)
  | serving (h : s.Serving)

/-! ### The receiving thread -/

lemma handle_cases {flag : Bool} (names : DynamicNames) (doc : Document) (hflag : flag = true) :
    let queue := PublicQueue.handle ⟨flag, names, []⟩ doc
    (IsSignIn doc ∧ queue.whileFlag = false ∧ queue.calls.flatMap connets = connetBusinessCalls) ∨
      (¬ IsSignIn doc ∧ queue.whileFlag = true ∧ queue.calls.flatMap connets = []) := by
  intro queue
  by_cases hdoc : IsSignIn doc
  · refine Or.inl ⟨hdoc, ?_⟩
    have hqueue : queue = _ := PublicQueue.handle_signIn ⟨flag, names, []⟩ hdoc
    rw [hqueue]
    exact ⟨rfl, rfl⟩
  · obtain ⟨hflag', hcalls⟩ := PublicQueue.handle_other (s := ⟨flag, names, []⟩) hdoc
      ⟨hflag, fun _ _ => List.not_mem_nil⟩
    refine Or.inr ⟨hdoc, hflag', List.flatMap_eq_nil_iff.mpr ?_⟩
    rintro ⟨doc', call⟩ hmem
    cases call with
    | sendPublicQueue => rfl
    | connetBusiness names' => exact absurd hmem (hcalls doc' names')

lemma Waiting.returns {ret : ℤ} {docs : List Document} (h : s.Waiting)
    (hs : s.returns ret docs = some s') : s'.Inv := by
  obtain ⟨pc, hstack, hpc, hheard⟩ := h.stack
  simp only [SignIn.returns] at hs
  split_ifs at hs with hlen
  obtain ⟨receiver, hr, rfl⟩ := Option.map_eq_some_iff.mp hs
  simp only [ReceivingThread.returns, hstack] at hr
  rw [returned, hstack]
  cases pc with
  | left => exact absurd rfl hpc
  | test => simp at hr
  | calls left =>
    cases left with
    | nil => simp at hr
    | cons c left =>
      obtain rfl := Option.some.inj hr
      exact .waiting ⟨⟨h.calm.main, h.calm.businessEv, h.calm.requests, h.calm.list,
        h.calm.consumer⟩, ⟨.calls left, rfl, by simp, fun _ => Or.inr ⟨left, rfl⟩⟩, h.flag,
        h.connecting, h.log⟩
  -- `Consumer` has got no message, a sign-in, or another message
  | consumer =>
    have hcalm := h.calm
    have hsignalled : s.main = .waitPublic → 0 < s.publicEv := fun hwait =>
      (hheard hwait).resolve_right (by simp)
    obtain rfl := Option.some.inj hr
    rcases docs with _ | ⟨doc, _ | ⟨doc', docs⟩⟩
    · refine .waiting ⟨⟨hcalm.main, hcalm.businessEv, hcalm.requests, hcalm.list,
        hcalm.consumer⟩, ⟨.test, rfl, by simp, fun hwait => Or.inl (hsignalled hwait)⟩, h.flag,
        rfl, ?_⟩
      simpa using h.log
    · rcases handle_cases s.receiver.names doc h.flag with
        ⟨hdoc, hflag, hcalls⟩ | ⟨hdoc, hflag, hcalls⟩
      · refine .opening ⟨⟨hcalm.main, hcalm.businessEv, hcalm.requests, hcalm.list,
          hcalm.consumer⟩, hsignalled, s.log, doc, [], h.log, hdoc, ?_, rfl⟩
        exact .connecting (by simp [hcalls, connetBusinessCalls]) (by simpa using hcalls) rfl hflag
      · refine .waiting ⟨⟨hcalm.main, hcalm.businessEv, hcalm.requests, hcalm.list,
          hcalm.consumer⟩, ⟨.test, rfl, by simp, fun hwait => Or.inl (hsignalled hwait)⟩, hflag,
          hcalls, ?_⟩
        intro e he
        rcases List.mem_append.mp he with he | he
        · exact h.log e he
        · exact ⟨doc, _, List.mem_singleton.mp he, hdoc⟩
    · exact absurd (Or.inr (by simp)) hlen

lemma Waiting.proceed (h : s.Waiting) (hs : s.proceed = some s') : s'.Inv := by
  obtain ⟨pc, hstack, hpc, hheard⟩ := h.stack
  have hcalm := h.calm
  simp only [SignIn.proceed] at hs
  split_ifs at hs
  obtain ⟨receiver, hr, rfl⟩ := Option.map_eq_some_iff.mp hs
  simp only [ReceivingThread.proceed, hstack] at hr
  rw [hstack]
  cases pc with
  | left => exact absurd rfl hpc
  | consumer => simp at hr
  | test =>
    obtain rfl := Option.some.inj hr
    exact .waiting ⟨⟨hcalm.main, hcalm.businessEv, hcalm.requests, hcalm.list, hcalm.consumer⟩,
      ⟨.consumer, by simp [h.flag], by simp, fun hwait =>
        Or.inl ((hheard hwait).resolve_right (by simp))⟩, h.flag, h.connecting, h.log⟩
  | calls left =>
    cases left with
    | cons c left => simp at hr
    -- the queue is bound, which signals the event of `start_server`
    | nil =>
      obtain rfl := Option.some.inj hr
      exact .waiting ⟨⟨hcalm.main, hcalm.businessEv, hcalm.requests, hcalm.list,
        hcalm.consumer⟩, ⟨.test, rfl, by simp, fun _ => Or.inl (Nat.succ_pos _)⟩, h.flag,
        h.connecting, h.log⟩

lemma Opening.connetBusiness (h : s.Opening) (hs : s.connetBusiness = some s') : s'.Inv := by
  obtain ⟨pub, doc, cs, hpub, hdoc, hat, hlog⟩ := h.log
  have hcalm : ∀ connecting sender log, Calm { s with
      connecting := connecting, sender := sender, log := log } := fun _ _ _ =>
    ⟨h.calm.main, h.calm.businessEv, h.calm.requests, h.calm.list, h.calm.consumer⟩
  cases hat with
  | connected hnil => simp [SignIn.connetBusiness, hnil] at hs
  | binding hnil => simp [SignIn.connetBusiness, hnil] at hs
  | connecting hne hcs hstack hflag =>
    obtain ⟨⟨o, c⟩, calls, hcalls⟩ := List.exists_cons_of_ne_nil hne
    simp only [SignIn.connetBusiness, hcalls, Option.some.injEq] at hs
    rw [← hs]
    refine .opening ⟨hcalm _ _ _, h.heard, pub, doc, cs ++ [(o, c)], hpub, hdoc, ?_, ?_⟩
    · rw [hcalls] at hcs
      -- behind the last call the receiving thread goes on to `start_business_queue`
      by_cases hnil : calls = []
      · have hdone : cs ++ [(o, c)] = connetBusinessCalls := by rw [← hcs, hnil]
        rw [hdone]
        exact .connected hnil (Or.inl hstack) hflag
      · exact .connecting hnil (by rw [List.append_assoc]; exact hcs) hstack hflag
    · simp [hlog, SignInEvent.calls]

lemma Opening.returns {ret : ℤ} {docs : List Document} (h : s.Opening)
    (hs : s.returns ret docs = some s') : s'.Inv := by
  obtain ⟨pub, doc, cs, hpub, hdoc, hat, hlog⟩ := h.log
  simp only [SignIn.returns] at hs
  split_ifs at hs with hlen
  obtain ⟨receiver, hr, rfl⟩ := Option.map_eq_some_iff.mp hs
  simp only [ReceivingThread.returns] at hr
  cases hat with
  | connecting hne => exact absurd (Or.inl hne) hlen
  | connected _ hstack =>
    rcases hstack with hstack | hstack <;> simp [hstack] at hr
  -- one more call of `start_business_queue` was made, with the names of the sign-in
  | @binding done left hnil hcalls hstack =>
    rw [hstack] at hr
    cases left with
    | nil => simp at hr
    | cons c left =>
      obtain rfl := Option.some.inj hr
      rw [returned, hstack]
      refine .opening ⟨⟨h.calm.main, h.calm.businessEv, h.calm.requests, h.calm.list,
        h.calm.consumer⟩, h.heard, pub, doc, _, hpub, hdoc,
        @At.binding _ (done ++ [c]) left hnil (by simpa using hcalls) rfl, ?_⟩
      simp [hlog, SignInEvent.calls]

lemma Opening.proceed (h : s.Opening) (hs : s.proceed = some s') : s'.Inv := by
  obtain ⟨pub, doc, cs, hpub, hdoc, hat, hlog⟩ := h.log
  have hcalm : ∀ receiver, Calm { s with receiver := receiver } := fun _ =>
    ⟨h.calm.main, h.calm.businessEv, h.calm.requests, h.calm.list, h.calm.consumer⟩
  simp only [SignIn.proceed] at hs
  split_ifs at hs with hidle
  obtain ⟨receiver, hr, rfl⟩ := Option.map_eq_some_iff.mp hs
  simp only [ReceivingThread.proceed] at hr
  cases hat with
  | connecting hne => exact absurd hne hidle
  | connected hnil hstack hflag =>
    rcases hstack with hstack | hstack
    · rw [hstack] at hr
      obtain rfl := Option.some.inj hr
      rw [hstack]
      exact .opening ⟨hcalm _, h.heard, pub, doc, _, hpub, hdoc,
        .connected hnil (Or.inr (by simp [hflag])) hflag, hlog⟩
    · rw [hstack] at hr
      obtain rfl := Option.some.inj hr
      rw [hstack]
      exact .opening ⟨hcalm _, h.heard, pub, doc, _, hpub, hdoc,
        @At.binding _ [] _ hnil rfl rfl, by simpa using hlog⟩
  | @binding done left hnil hcalls hstack =>
    rw [hstack] at hr
    cases left with
    | cons c left => simp at hr
    -- the business queue is bound, which signals the other event
    | nil =>
      obtain rfl := Option.some.inj hr
      rw [List.append_nil] at hcalls
      rw [hstack]
      refine .serving ⟨⟨_, _, rfl, by simp⟩, hnil, ⟨pub, doc, [], hpub, hdoc, by simp, ?_⟩,
        fun hwait => ⟨h.heard hwait, Nat.succ_pos _⟩, fun _ => Nat.succ_pos _⟩
      rw [List.append_nil]
      simpa [hcalls, openingCalls] using hlog

/-! ### After the business queue is bound -/

/-- What the threads do from here on uses the names, which stay. -/
lemma Serving.log_append (h : s.Serving) {es : List SignInEvent} (hnames :
    s'.receiver.names = s.receiver.names) (hlog : s'.log = s.log ++ es)
    (hes : ∀ e ∈ es, e.Uses s.receiver.names) :
    ∃ pub doc es, (∀ e ∈ pub, e.Ignored) ∧ IsSignIn doc ∧
      (∀ e ∈ es, e.Uses s'.receiver.names) ∧
      s'.log = pub ++ .handled doc s'.receiver.names ::
        (SignInEvent.calls s'.receiver.names openingCalls ++ es) := by
  obtain ⟨pub, doc, es₀, hpub, hdoc, hes₀, hlog₀⟩ := h.log
  refine ⟨pub, doc, es₀ ++ es, hpub, hdoc, ?_, ?_⟩
  · rw [hnames]
    exact fun e he => (List.mem_append.mp he).elim (hes₀ e) (hes e)
  · rw [hlog, hlog₀, hnames]
    simp

lemma Serving.push {msg : String} (h : s.Serving) (hs : s.push msg = some s') : s'.Serving := by
  obtain ⟨business, _, rfl⟩ := Option.map_eq_some_iff.mp hs
  refine ⟨h.stack, h.connecting, h.log_append rfl rfl ?_, h.waitPublic, h.waitBusiness⟩
  intro e he
  exact Or.inl ⟨msg, List.mem_singleton.mp he⟩

lemma Serving.startServer {announced : Option String} (h : s.Serving)
    (hs : s.startServer announced = some s') : s'.Serving := by
  have hmain := fun hwait => (h.waitPublic hwait).2
  cases hm : s.main with
  | waitPublic =>
    simp only [SignIn.startServer, hm] at hs
    split_ifs at hs
    rw [← Option.some.inj hs]
    exact ⟨h.stack, h.connecting, h.log, by simp, fun _ => hmain hm⟩
  | waitBusiness =>
    simp only [SignIn.startServer, hm] at hs
    split_ifs at hs
    rw [← Option.some.inj hs]
    exact ⟨h.stack, h.connecting, h.log, by simp, by simp⟩
  -- the names are those of the sign-in: `start_server` has waited for both queues
  | upload =>
    simp only [SignIn.startServer, hm] at hs
    cases announced with
    | some msg => exact h.push hs
    | none =>
      rw [← Option.some.inj hs]
      exact ⟨h.stack, h.connecting, h.log, by simp, by simp⟩
  | returned => simp [SignIn.startServer, hm] at hs

lemma Serving.sentBusiness {ret : ℤ} (h : s.Serving)
    (hs : s.step (.sentBusiness ret) = some s') : s'.Serving := by
  simp only [step] at hs
  split_ifs at hs
  obtain ⟨business, _, rfl⟩ := Option.map_eq_some_iff.mp hs
  refine ⟨h.stack, h.connecting, h.log_append rfl rfl ?_, h.waitPublic, h.waitBusiness⟩
  intro e he
  rw [sends] at he
  split at he
  · obtain ⟨r, _, rfl⟩ := Option.map_eq_some_iff.mp (Option.mem_toList.mp he)
    exact Or.inr ⟨r.1, r.2, rfl⟩
  · exact absurd he List.not_mem_nil

lemma Serving.returns {ret : ℤ} {docs : List Document} (h : s.Serving)
    (hs : s.returns ret docs = some s') : s'.Serving := by
  obtain ⟨⟨f, pc⟩, callers, hstack, hf⟩ := h.stack
  simp only [SignIn.returns] at hs
  split_ifs at hs
  obtain ⟨receiver, hr, rfl⟩ := Option.map_eq_some_iff.mp hs
  have huses : ∀ c, ∀ e ∈ [SignInEvent.call .objDynamicRabbitmqRecv c s.receiver.names],
      e.Uses s.receiver.names := fun c e he => Or.inr ⟨_, c, List.mem_singleton.mp he⟩
  simp only [ReceivingThread.returns, hstack] at hr
  rw [returned, hstack]
  cases f with
  | startPublicQueue => exact absurd rfl hf
  | startBusinessQueue =>
    cases pc with
    | test | left => simp at hr
    | consumer =>
      simp only at hr
      -- whether the loop goes on or is left, the call used the names
      split_ifs at hr <;> obtain rfl := Option.some.inj hr
      · exact ⟨⟨_, _, rfl, by simp⟩, h.connecting, h.log_append rfl rfl (huses _), h.waitPublic,
          h.waitBusiness⟩
      · exact ⟨⟨_, _, rfl, by simp⟩, h.connecting, h.log_append rfl rfl (huses _), h.waitPublic,
          h.waitBusiness⟩
    | calls left =>
      cases left with
      | nil => simp at hr
      | cons c left =>
        obtain rfl := Option.some.inj hr
        exact ⟨⟨_, _, rfl, by simp⟩, h.connecting, h.log_append rfl rfl (huses _), h.waitPublic,
          h.waitBusiness⟩
  | restartBusinessQueue =>
    cases pc with
    | test | left | consumer => simp at hr
    | calls left =>
      cases left with
      | nil => simp at hr
      | cons c left =>
        obtain rfl := Option.some.inj hr
        exact ⟨⟨_, _, rfl, by simp⟩, h.connecting, h.log_append rfl rfl (huses _), h.waitPublic,
          h.waitBusiness⟩

/-- The thread never comes back to the public queue. -/
lemma proceed_serving {r r' : ReceivingThread} {a : Activation} {callers : List Activation}
    (hstack : r.stack = a :: callers) (ha : a.function ≠ .startPublicQueue)
    (hr : r.proceed = some r') :
    r'.names = r.names ∧
      ∃ a' callers', r'.stack = a' :: callers' ∧ a'.function ≠ .startPublicQueue := by
  obtain ⟨f, pc⟩ := a
  simp only [ReceivingThread.proceed, hstack] at hr
  cases pc with
  | consumer => simp at hr
  | test =>
    cases f with
    | startPublicQueue => exact absurd rfl ha
    -- the test of the flag, which goes on or leaves the loop
    | startBusinessQueue | restartBusinessQueue =>
      obtain rfl := Option.some.inj hr
      exact ⟨rfl, _, _, rfl, ha⟩
  | left =>
    cases f with
    | startPublicQueue => exact absurd rfl ha
    | restartBusinessQueue => simp at hr
    -- the loop was left, and the restart is called
    | startBusinessQueue =>
      obtain rfl := Option.some.inj hr
      exact ⟨rfl, _, _, rfl, by simp [QueueFunction.enter]⟩
  | calls left =>
    cases left with
    | cons c left => simp at hr
    | nil =>
      cases f with
      | startPublicQueue => exact absurd rfl ha
      | startBusinessQueue | restartBusinessQueue =>
        obtain rfl := Option.some.inj hr
        exact ⟨rfl, _, _, rfl, by simp [QueueFunction.enter]⟩

lemma Serving.proceed (h : s.Serving) (hs : s.proceed = some s') : s'.Serving := by
  obtain ⟨a, callers, hstack, ha⟩ := h.stack
  simp only [SignIn.proceed] at hs
  split_ifs at hs
  obtain ⟨receiver, hr, rfl⟩ := Option.map_eq_some_iff.mp hs
  obtain ⟨hnames, hstack'⟩ := proceed_serving hstack ha hr
  have hlog := @log_append s { s with receiver := receiver } h [] hnames (List.append_nil _).symm
    (by simp)
  rw [hstack]
  split
  · exact ⟨hstack', h.connecting, hlog, fun hwait => ⟨Nat.succ_pos _, (h.waitPublic hwait).2⟩,
      h.waitBusiness⟩
  · exact ⟨hstack', h.connecting, hlog, fun hwait => ⟨(h.waitPublic hwait).1, Nat.succ_pos _⟩,
      fun _ => Nat.succ_pos _⟩
  · exact ⟨hstack', h.connecting, hlog, h.waitPublic, h.waitBusiness⟩

lemma Serving.step {a : SignInAction} (h : s.Serving) (hs : s.step a = some s') :
    s'.Serving := by
  cases a with
  | returns ret docs => exact h.returns hs
  | proceed => exact h.proceed hs
  | connetBusiness => simp [SignIn.step, SignIn.connetBusiness, h.connecting] at hs
  | startServer announced => exact h.startServer hs
  | answer i msg =>
    obtain ⟨_, _, hs⟩ := Option.bind_eq_some_iff.mp hs
    exact h.push hs
  | sentBusiness ret => exact h.sentBusiness hs

/-! ### Whole runs -/

lemma Waiting.stays (h : s.Waiting) (hs : s.Stays s') : s'.Waiting := by
  obtain ⟨pc, hstack, hpc, hheard⟩ := h.stack
  refine ⟨hs.calm, ⟨pc, ?_, hpc, fun hwait => ?_⟩, ?_, ?_, ?_⟩
  · rw [hs.receiver, hstack]
  · obtain ⟨hwait, hev⟩ := hs.waits hwait
    rw [hev]
    exact hheard hwait
  · rw [hs.receiver, h.flag]
  · rw [hs.connecting, h.connecting]
  · rw [hs.log]
    exact h.log

lemma At.stays {cs : List (ClientObject × CallName)} (h : s.At cs) (hs : s.Stays s') :
    s'.At cs := by
  cases h with
  | connecting hne hcs hstack hflag =>
    rw [← hs.connecting] at hne hcs
    rw [← hs.receiver] at hstack hflag
    exact .connecting hne hcs hstack hflag
  | connected hnil hstack hflag =>
    rw [← hs.connecting] at hnil
    rw [← hs.receiver] at hstack hflag
    exact .connected hnil hstack hflag
  | binding hnil hcalls hstack =>
    rw [← hs.connecting] at hnil
    rw [← hs.receiver] at hstack
    exact .binding hnil hcalls hstack

lemma Opening.stays (h : s.Opening) (hs : s.Stays s') : s'.Opening := by
  obtain ⟨pub, doc, cs, hpub, hdoc, hat, hlog⟩ := h.log
  refine ⟨hs.calm, fun hwait => ?_, pub, doc, cs, hpub, hdoc, hat.stays hs, ?_⟩
  · obtain ⟨hwait, hev⟩ := hs.waits hwait
    rw [hev]
    exact h.heard hwait
  · rw [hs.log, hs.receiver, hlog]

lemma Inv.step {a : SignInAction} (h : s.Inv) (hs : s.step a = some s') : s'.Inv := by
  cases h with
  | serving h => exact .serving (h.step hs)
  | waiting h =>
    cases a with
    | returns ret docs => exact h.returns hs
    | proceed => exact h.proceed hs
    | connetBusiness => simp [SignIn.step, SignIn.connetBusiness, h.connecting] at hs
    | startServer | answer | sentBusiness => exact .waiting (h.stays (h.calm.stays id hs))
  | opening h =>
    cases a with
    | returns ret docs => exact h.returns hs
    | proceed => exact h.proceed hs
    | connetBusiness => exact h.connetBusiness hs
    | startServer | answer | sentBusiness => exact .opening (h.stays (h.calm.stays id hs))

lemma inv_start (names : DynamicNames) : (start names).Inv :=
  .waiting ⟨⟨Or.inl rfl, rfl, rfl, rfl, Or.inl rfl⟩,
    ⟨_, rfl, by simp, fun _ => Or.inr ⟨_, rfl⟩⟩, rfl, rfl, by simp [start]⟩

lemma At.opens {cs : List (ClientObject × CallName)} (h : s.At cs) : cs <+: openingCalls := by
  cases h with
  | connecting _ hcs _ _ => exact ⟨_, by rw [← List.append_assoc, hcs]; rfl⟩
  | connected _ _ _ => exact List.prefix_append _ _
  | @binding done left _ hcalls _ =>
    refine (List.prefix_append_right_inj _).mpr ⟨left.map fun c => (.objDynamicRabbitmqRecv, c), ?_⟩
    rw [← List.map_append, hcalls]
    rfl

lemma Inv.signsIn (h : s.Inv) : SignsIn s.log := by
  cases h with
  | waiting h => exact .waiting h.log
  | opening h =>
    obtain ⟨pub, doc, cs, hpub, hdoc, hat, hlog⟩ := h.log
    rw [hlog]
    exact .opening hpub hdoc hat.opens
  | serving h =>
    obtain ⟨pub, doc, es, hpub, hdoc, hes, hlog⟩ := h.log
    rw [hlog]
    exact .opened hpub hdoc hes

lemma Inv.serving_of_consumer (h : s.Inv) {o : ClientObject} {names : DynamicNames}
    (hmem : .call o .consumer names ∈ s.log) : s.Serving := by
  cases h with
  | serving h => exact h
  | waiting h =>
    obtain ⟨_, _, heq, _⟩ := h.log _ hmem
    exact nomatch heq
  | opening h =>
    obtain ⟨pub, doc, cs, hpub, _, hat, hlog⟩ := h.log
    rw [hlog, List.mem_append, List.mem_cons] at hmem
    rcases hmem with hmem | heq | hmem
    · obtain ⟨_, _, heq, _⟩ := hpub _ hmem
      exact nomatch heq
    · exact nomatch heq
    · obtain ⟨⟨o', c⟩, hmem, heq⟩ := List.mem_map.mp hmem
      obtain ⟨-, rfl, -⟩ := SignInEvent.call.inj heq
      have hno : ∀ r ∈ openingCalls, r.2 ≠ .consumer := by decide
      exact absurd rfl (hno _ (hat.opens.subset hmem))

lemma Serving.startServer_isSome (h : s.Serving) (hmain : s.main ≠ .returned) :
    (s.startServer none).isSome = true := by
  rw [SignIn.startServer]
  cases hm : s.main with
  | waitPublic => simp [Nat.pos_iff_ne_zero.mp (h.waitPublic hm).1]
  | waitBusiness => simp [Nat.pos_iff_ne_zero.mp (h.waitBusiness hm)]
  | upload => rfl
  | returned => exact absurd hm hmain

/-- In every interleaving of the threads the gateway signs in first, opens the business queue with
the names that the sign-in leaves, and sends and receives only then, always with these names; and
once it receives, `start_server` is not waiting. -/
theorem signs_in {names : DynamicNames} {as : List SignInAction} {t : SignIn}
    (hrun : Run.run step (start names) as = some t) :
    SignsIn t.log ∧
      ∀ o names', .call o .consumer names' ∈ t.log → t.main ≠ .returned →
        (t.startServer none).isSome = true := by
  have hinv : t.Inv :=
    Run.reachable_invariant (I := Inv) (fun _ _ _ h hs => h.step hs) (inv_start names) hrun
  exact ⟨hinv.signsIn, fun o names' hmem => (hinv.serving_of_consumer hmem).startServer_isSome⟩

def acceptedSignIn : Document :=
  some (.obj [("serialNum", .str "29fc51254c0c4809a9f4851f994111a2"),
    ("msgType", .str "GATEWAY_SIGN_IN"), ("msgId", .str "h_1"), ("code", .num 0),
    ("data", .obj [("mqExchange", .str "ex"), ("mqGetQueue", .str "get"),
      ("mqSetQueue", .str "set")])])

def announceOne : List SignInAction :=
  [.returns 0 [], .returns 0 [], .proceed, .startServer none, .proceed,
    .returns 0 [acceptedSignIn], .connetBusiness, .connetBusiness, .connetBusiness,
    .connetBusiness, .sentBusiness 0, .proceed, .proceed, .returns 0 [], .returns 0 [], .proceed,
    .startServer none, .startServer (some "d1"), .startServer none, .proceed,
    .returns timeoutError []] ++ List.replicate 5 (.sentBusiness 0)

theorem signs_in_one : ∃ t, Run.run step (start ⟨"", "", ""⟩) announceOne = some t ∧
    SignsIn t.log ∧ t.business.published = ["d1"] := by
  have hrun : ∃ t, Run.run step (start ⟨"", "", ""⟩) announceOne = some t ∧
      t.business.published = ["d1"] := ⟨_, rfl, rfl⟩
  obtain ⟨t, hrun, hpublished⟩ := hrun
  exact ⟨t, hrun, (signs_in hrun).1, hpublished⟩

end SignIn

end DHGateway
