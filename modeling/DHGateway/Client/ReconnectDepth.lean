import DHGateway.Client.Connections
import DHGateway.Client.PublicQueue

/-!
# The stack of the receiving thread

The thread starts in `start_public_queue`, which ends in `start_business_queue`. When receiving
fails, this calls `restart_business_queue`, and that calls `start_business_queue` again.
-/

namespace DHGateway

/-- The functions of `client_manage` that the receiving thread goes through. -/
inductive QueueFunction where
  | startPublicQueue
  | startBusinessQueue
  | restartBusinessQueue
  deriving DecidableEq

/-- Where a function is: at one of the calls on a client that it begins with, whose results it only
logs; at the test of `while_flag`; in `Consumer`; or past the loop. -/
inductive QueuePc where
  | calls (left : List CallName)
  | test
  | consumer
  | left
  deriving DecidableEq

structure Activation where
  function : QueueFunction
  pc : QueuePc
  deriving DecidableEq

def QueueFunction.calls : QueueFunction → List CallName
  | .startPublicQueue | .startBusinessQueue => [.queueDeclare, .queueBind]
  | .restartBusinessQueue => [.disconnect, .connect, .exchangeDeclare]

def QueueFunction.enter (f : QueueFunction) : Activation := ⟨f, .calls f.calls⟩

/-- The stack of the thread, with the last call first, and what its functions share. -/
structure ReceivingThread where
  whileFlag : Bool
  names : DynamicNames
  stack : List Activation

/-- What can happen next: a call on a client returns, where `docs` are the messages if it is
`Consumer` for the public queue; the thread goes on without one; or another thread calls
`client_manage::stop`. -/
inductive ThreadAction where
  | returns (ret : ℤ) (docs : List Document)
  | proceed
  | stop

namespace ReceivingThread

/-- The thread begins with a function. Both functions with a loop set the flag. -/
def start (f : QueueFunction) (names : DynamicNames) : ReceivingThread := ⟨true, names, [f.enter]⟩

/-- A call on a client returns. The messages of the public queue are handled one by one, whatever
`Consumer` returned; a failure of the business queue ends its loop. -/
def returns (s : ReceivingThread) (ret : ℤ) (docs : List Document) : Option ReceivingThread :=
  match s.stack with
  | ⟨f, .calls (_ :: left)⟩ :: callers => some { s with stack := ⟨f, .calls left⟩ :: callers }
  | ⟨.startPublicQueue, .consumer⟩ :: callers =>
    let queue := docs.foldl PublicQueue.handle ⟨s.whileFlag, s.names, []⟩
    some ⟨queue.whileFlag, queue.names, ⟨.startPublicQueue, .test⟩ :: callers⟩
  | ⟨.startBusinessQueue, .consumer⟩ :: callers =>
    if ret = 0 ∨ ret = timeoutError then
      some { s with stack := ⟨.startBusinessQueue, .test⟩ :: callers }
    else
      some { s with whileFlag := false, stack := ⟨.startBusinessQueue, .left⟩ :: callers }
  | _ => none

/-- The thread goes on. `start_public_queue` cancels consuming before its call. -/
def proceed (s : ReceivingThread) : Option ReceivingThread :=
  match s.stack with
  | ⟨.restartBusinessQueue, .calls []⟩ :: _ | ⟨.startPublicQueue, .left⟩ :: _ =>
    some { s with whileFlag := true, stack := QueueFunction.startBusinessQueue.enter :: s.stack }
  | ⟨.startBusinessQueue, .left⟩ :: _ =>
    some { s with stack := QueueFunction.restartBusinessQueue.enter :: s.stack }
  | ⟨f, .calls []⟩ :: callers => some { s with stack := ⟨f, .test⟩ :: callers }
  | ⟨f, .test⟩ :: callers =>
    some { s with stack := ⟨f, if s.whileFlag then .consumer else .left⟩ :: callers }
  | _ => none

def step (s : ReceivingThread) : ThreadAction → Option ReceivingThread
  | .returns ret docs => s.returns ret docs
  | .proceed => s.proceed
  | .stop => some { s with whileFlag := false }

def functions (s : ReceivingThread) : List QueueFunction := s.stack.map Activation.function

/-- `start_business_queue` is on the stack once at most, and the stack has no more than one call of
each function. -/
def Flat (s : ReceivingThread) : Prop :=
  s.functions.count .startBusinessQueue ≤ 1 ∧ s.stack.length ≤ 3

/-- The step is not the call of `start_business_queue` by `restart_business_queue`. -/
def Keeps (s : ReceivingThread) (a : ThreadAction) : Prop :=
  a = .proceed → s.stack.head? ≠ some ⟨.restartBusinessQueue, .calls []⟩

/-- Receiving from the business queue does not fail, and is not stopped. -/
def Receives (s : ReceivingThread) : ThreadAction → Prop
  | .returns ret _ =>
    s.stack.head? = some ⟨.startBusinessQueue, .consumer⟩ → ret = 0 ∨ ret = timeoutError
  | .proceed => True
  | .stop => s.functions.head? = some .startPublicQueue

variable {s s' : ReceivingThread} {a : ThreadAction}

lemma not_keeps (h : ¬ s.Keeps a) :
    a = .proceed ∧ s.stack.head? = some ⟨.restartBusinessQueue, .calls []⟩ := by
  rw [Keeps, Classical.not_imp, not_not] at h
  exact h

lemma step_of_not_keeps (hkeeps : ¬ s.Keeps a) (h : s.step a = some s') :
    s.functions.head? = some .restartBusinessQueue ∧
      s'.functions = .startBusinessQueue :: s.functions := by
  obtain ⟨rfl, hhead⟩ := not_keeps hkeeps
  obtain ⟨callers, hstack⟩ := List.head?_eq_some_iff.mp hhead
  simp only [step, proceed, hstack] at h
  rw [← Option.some.inj h]
  simp [functions, hstack, QueueFunction.enter]

/-- A step leaves the functions alone, or one of them calls another. -/
lemma step_functions (h : s.step a = some s') :
    s'.functions = s.functions ∨ ¬ s.Keeps a ∨
    (s.functions.head? = some .startPublicQueue ∧
      s'.functions = .startBusinessQueue :: s.functions) ∨
    (s.functions.head? = some .startBusinessQueue ∧
      s'.functions = .restartBusinessQueue :: s.functions) := by
  cases a with
  | stop =>
    rw [← Option.some.inj h]
    exact Or.inl rfl
  | returns ret docs =>
    left
    simp only [step, returns] at h
    split at h
    case h_1 hstack | h_2 hstack =>
      rw [← Option.some.inj h]
      simp [functions, hstack]
    -- `Consumer` of the business queue: the loop goes on or is left, in the same call
    case h_3 hstack =>
      split_ifs at h <;>
      · rw [← Option.some.inj h]
        simp [functions, hstack]
    case h_4 => cases h
  | proceed =>
    simp only [step, proceed] at h
    split at h
    case h_1 hstack =>
      rw [← Option.some.inj h]
      right; left
      exact fun hkeeps => hkeeps rfl (by rw [hstack]; rfl)
    case h_2 hstack =>
      rw [← Option.some.inj h]
      right; right; left
      exact ⟨by simp [functions, hstack], rfl⟩
    -- behind its loop `start_business_queue` calls `restart_business_queue`
    case h_3 hstack =>
      rw [← Option.some.inj h]
      right; right; right
      exact ⟨by simp [functions, hstack], rfl⟩
    case h_4 hstack | h_5 hstack =>
      rw [← Option.some.inj h]
      left
      simp [functions, hstack]
    case h_6 => cases h

/-- The stacks before a restart calls `start_business_queue`. -/
def orderedStacks : List (List QueueFunction) :=
  [[.startPublicQueue], [.startBusinessQueue], [.startBusinessQueue, .startPublicQueue],
    [.restartBusinessQueue, .startBusinessQueue],
    [.restartBusinessQueue, .startBusinessQueue, .startPublicQueue]]

def Ordered (s : ReceivingThread) : Prop := s.functions ∈ orderedStacks

lemma orderedStacks_calls : ∀ fs ∈ orderedStacks,
    (fs.count .startBusinessQueue ≤ 1 ∧ fs.length ≤ 3) ∧
    (fs.head? = some .startPublicQueue → .startBusinessQueue :: fs ∈ orderedStacks) ∧
    (fs.head? = some .startBusinessQueue → .restartBusinessQueue :: fs ∈ orderedStacks) ∧
    (fs.head? = some .restartBusinessQueue →
      ¬ (.startBusinessQueue :: fs).count .startBusinessQueue ≤ 1) := by
  decide

lemma Ordered.flat (h : s.Ordered) : s.Flat := by
  have hlength : s.stack.length = s.functions.length := (List.length_map ..).symm
  rw [Flat, hlength]
  exact (orderedStacks_calls _ h).1

lemma Ordered.step (h : s.Ordered) (hkeeps : s.Keeps a) (hs : s.step a = some s') :
    s'.Ordered := by
  rw [Ordered]
  rcases step_functions hs with heq | hno | ⟨hhead, heq⟩ | ⟨hhead, heq⟩
  · exact heq ▸ h
  · exact absurd hkeeps hno
  · exact heq ▸ (orderedStacks_calls _ h).2.1 hhead
  · exact heq ▸ (orderedStacks_calls _ h).2.2.1 hhead

lemma Ordered.not_flat (h : s.Ordered) (hkeeps : ¬ s.Keeps a) (hs : s.step a = some s') :
    ¬ s'.Flat := by
  obtain ⟨hhead, heq⟩ := step_of_not_keeps hkeeps hs
  rw [Flat, heq]
  exact fun hflat => (orderedStacks_calls _ h).2.2.2 hhead hflat.1

/-! ### Runs without a failure -/

/-- As long as nothing fails there is no restart, and the business queue is not left. -/
structure Unfailed (s : ReceivingThread) : Prop where
  ordered : s.Ordered
  noRestart : s.functions.head? ≠ some .restartBusinessQueue
  staying : s.functions.head? = some .startBusinessQueue →
    s.whileFlag = true ∧ s.stack.head? ≠ some ⟨.startBusinessQueue, .left⟩

lemma Unfailed.keeps (h : s.Unfailed) (a : ThreadAction) : s.Keeps a := by
  by_contra hkeeps
  obtain ⟨-, hhead⟩ := not_keeps hkeeps
  obtain ⟨callers, hstack⟩ := List.head?_eq_some_iff.mp hhead
  exact h.noRestart (by simp [functions, hstack])

lemma unfailed_iff {f : QueueFunction} {pc : QueuePc} {callers : List Activation}
    (hstack : s.stack = ⟨f, pc⟩ :: callers) :
    s.Unfailed ↔ s.Ordered ∧ f ≠ .restartBusinessQueue ∧
      (f = .startBusinessQueue → s.whileFlag = true ∧ pc ≠ .left) := by
  have hhead : s.functions.head? = some f := by simp [functions, hstack]
  constructor
  · intro h
    refine ⟨h.ordered, ?_, ?_⟩
    · rintro rfl
      exact h.noRestart hhead
    · rintro rfl
      obtain ⟨hflag, hpc⟩ := h.staying hhead
      refine ⟨hflag, ?_⟩
      rintro rfl
      exact hpc (by rw [hstack]; rfl)
  · rintro ⟨hordered, hf, hstay⟩
    refine ⟨hordered, ?_, ?_⟩
    · rw [hhead]
      exact fun heq => hf (Option.some.inj heq)
    · intro heq
      rw [hhead] at heq
      obtain ⟨hflag, hpc⟩ := hstay (Option.some.inj heq)
      refine ⟨hflag, ?_⟩
      rw [hstack]
      exact fun heq' => hpc (congrArg Activation.pc (Option.some.inj heq'))

lemma Unfailed.step (h : s.Unfailed) (hreceives : s.Receives a) (hs : s.step a = some s') :
    s'.Unfailed := by
  have hordered : s'.Ordered := h.ordered.step (h.keeps a) hs
  cases a with
  | stop =>
    have hpublic : s.functions.head? = some .startPublicQueue := hreceives
    rw [← Option.some.inj hs] at hordered ⊢
    refine ⟨hordered, h.noRestart, fun hhead => ?_⟩
    have heq : some QueueFunction.startPublicQueue = some .startBusinessQueue :=
      hpublic.symm.trans hhead
    cases heq
  | returns ret docs =>
    simp only [ReceivingThread.step, returns] at hs
    split at hs
    case h_1 hstack =>
      obtain ⟨-, hf, hstay⟩ := (unfailed_iff hstack).mp h
      rw [← Option.some.inj hs] at hordered ⊢
      refine (unfailed_iff rfl).mpr ⟨hordered, hf, fun heq => ⟨(hstay heq).1, fun hpc => ?_⟩⟩
      cases hpc
    case h_2 hstack =>
      rw [← Option.some.inj hs] at hordered ⊢
      refine (unfailed_iff rfl).mpr ⟨hordered, by decide, fun heq => ?_⟩
      cases heq
    -- a failure would make the thread leave the loop
    case h_3 hstack =>
      obtain ⟨-, hf, hstay⟩ := (unfailed_iff hstack).mp h
      have hret : ret = 0 ∨ ret = timeoutError := hreceives (by rw [hstack]; rfl)
      rw [if_pos hret] at hs
      rw [← Option.some.inj hs] at hordered ⊢
      exact (unfailed_iff rfl).mpr ⟨hordered, hf, fun _ => ⟨(hstay rfl).1, by decide⟩⟩
    case h_4 => cases hs
  | proceed =>
    simp only [ReceivingThread.step, proceed] at hs
    split at hs
    case h_1 hstack => exact absurd rfl ((unfailed_iff hstack).mp h).2.1
    case h_2 hstack =>
      rw [← Option.some.inj hs] at hordered ⊢
      exact (unfailed_iff rfl).mpr ⟨hordered, by decide, fun _ => ⟨rfl, by decide⟩⟩
    -- the loop was left, which needs a failure
    case h_3 hstack => exact absurd rfl (((unfailed_iff hstack).mp h).2.2 rfl).2
    case h_4 hstack =>
      obtain ⟨-, hf, hstay⟩ := (unfailed_iff hstack).mp h
      rw [← Option.some.inj hs] at hordered ⊢
      refine (unfailed_iff rfl).mpr ⟨hordered, hf, fun heq => ⟨(hstay heq).1, ?_⟩⟩
      intro hpc
      cases hpc
    case h_5 hstack =>
      obtain ⟨-, hf, hstay⟩ := (unfailed_iff hstack).mp h
      rw [← Option.some.inj hs] at hordered ⊢
      refine (unfailed_iff rfl).mpr ⟨hordered, hf, fun heq => ⟨(hstay heq).1, ?_⟩⟩
      rw [if_pos (hstay heq).1]
      intro hpc
      cases hpc
    case h_6 => cases hs

/-! ### How deep the stack gets -/

lemma unfailed_start {f : QueueFunction} (hf : f ≠ .restartBusinessQueue) (names : DynamicNames) :
    (start f names).Unfailed := by
  refine (unfailed_iff rfl).mpr ⟨?_, hf, fun _ => ⟨rfl, ?_⟩⟩
  · show [f] ∈ orderedStacks
    revert hf
    cases f <;> decide
  · intro hpc
    cases hpc

/-- In a run of the thread there is at most one `start_business_queue` on the stack, which is not
deeper than the number of functions, exactly if no restart gets to its call of that function; and
none does when receiving does not fail. -/
theorem flat_iff {f : QueueFunction} (hf : f ≠ .restartBusinessQueue) (names : DynamicNames)
    {as : List ThreadAction} {t : ReceivingThread}
    (hrun : Run.run step (start f names) as = some t) :
    (Run.Always step Flat (start f names) as ↔ Run.Meets step Keeps (start f names) as) ∧
      (Run.Meets step Receives (start f names) as → Run.Meets step Keeps (start f names) as) := by
  have h0 : (start f names).Unfailed := unfailed_start hf names
  constructor
  · exact Run.always_iff_meets (I := Ordered) (fun _ h => h.flat)
      (fun _ _ _ h hk hs => h.step hk hs) (fun _ _ _ h hk hs => h.not_flat hk hs) h0.ordered hrun
  · exact Run.meets_of_invariant (I := Unfailed) (fun _ _ _ h hr hs => h.step hr hs)
      (fun _ a h _ => h.keeps a) h0

/-- A call of `Consumer` for the business queue times out. -/
theorem flat_iff_timeout :
    Run.Always step Flat (start .startBusinessQueue ⟨"", "", ""⟩)
      [.returns 0 [], .returns 0 [], .proceed, .proceed, .returns timeoutError []] := by
  obtain ⟨hflat, hreceives⟩ := flat_iff (f := .startBusinessQueue) (by decide) ⟨"", "", ""⟩
    (show Run.run step _ [.returns 0 [], .returns 0 [], .proceed, .proceed,
      .returns timeoutError []] =
        some ⟨true, ⟨"", "", ""⟩, [⟨.startBusinessQueue, .test⟩]⟩ from rfl)
  apply hflat.mpr
  apply hreceives
  apply Run.meets_cons (fun _ => Or.inl rfl) rfl
  apply Run.meets_cons (fun _ => Or.inl rfl) rfl
  apply Run.meets_cons trivial rfl
  apply Run.meets_cons trivial rfl
  exact Run.meets_cons (fun _ => Or.inr rfl) rfl trivial

/-- After a sign-in, receiving fails once. -/
theorem not_flat :
    ∃ t, Run.run step (start .startPublicQueue ⟨"", "", ""⟩)
        [.returns 0 [], .returns 0 [], .proceed, .proceed,
          .returns 0 [PublicQueue.refusedSignIn], .proceed, .proceed,
          .returns 0 [], .returns 0 [], .proceed, .proceed, .returns socketError [], .proceed,
          .returns 0 [], .returns 0 [], .returns 0 [], .proceed] = some t ∧
      t.functions = [.startBusinessQueue, .restartBusinessQueue, .startBusinessQueue,
        .startPublicQueue] ∧ ¬ t.Flat :=
  ⟨_, rfl, rfl, fun h => absurd h.1 (by decide)⟩

/-- The queue and its binding are declared, receiving fails, and the connection is made again. -/
def failure : List ThreadAction :=
  [.returns 0 [], .returns 0 [], .proceed, .proceed, .returns socketError [], .proceed,
    .returns 0 [], .returns 0 [], .returns 0 [], .proceed]

/-- Each failure makes the stack two calls deeper. -/
theorem nested (k : ℕ) (names : DynamicNames) :
    ∃ t, Run.run step (start .startBusinessQueue names) (List.replicate k failure).flatten =
        some t ∧
      t.functions.count .startBusinessQueue = k + 1 ∧ t.stack.length = 2 * k + 1 := by
  -- each round puts two calls on a stack of any height
  suffices h : ∀ callers, ∃ t,
      Run.run step ⟨true, names, QueueFunction.startBusinessQueue.enter :: callers⟩
        (List.replicate k failure).flatten = some t ∧
      t.functions.count .startBusinessQueue =
        (callers.map Activation.function).count .startBusinessQueue + (k + 1) ∧
      t.stack.length = callers.length + (2 * k + 1) by
    obtain ⟨t, hrun, hcount, hlength⟩ := h []
    exact ⟨t, hrun, by simpa using hcount, by simpa using hlength⟩
  induction k with
  | zero => exact fun callers => ⟨_, rfl, by simp [functions, QueueFunction.enter], rfl⟩
  | succ k ih =>
    intro callers
    obtain ⟨t, hrun, hcount, hlength⟩ :=
      ih (⟨.restartBusinessQueue, .calls []⟩ :: ⟨.startBusinessQueue, .left⟩ :: callers)
    refine ⟨t, ?_, ?_, ?_⟩
    · rw [List.replicate_succ, List.flatten_cons]
      exact hrun
    · rw [hcount]
      simp
      omega
    · rw [hlength]
      simp
      omega

end ReceivingThread

/-! ### Restarts among the other functions -/

/-- The position in the other model of `restart_business_queue`, where the calls form a loop. -/
def Activation.managePc : Activation → ManagePc
  | ⟨.startPublicQueue, _⟩ => .logging []
  | ⟨.startBusinessQueue, .calls left⟩ => .restarting left
  | ⟨.startBusinessQueue, .left⟩ => .restartBusinessQueue
  | ⟨.startBusinessQueue, _⟩ => .restarting []
  | ⟨.restartBusinessQueue, .calls left⟩ => .restarting (left ++ [.queueDeclare, .queueBind])
  | ⟨.restartBusinessQueue, _⟩ => .restarting []

namespace ReceivingThread

variable {s s' : ReceivingThread} {a : Activation} {callers : List Activation}

lemma returns_managePc {ret : ℤ} {docs : List Document} (hstack : s.stack = a :: callers)
    (hf : a.function ≠ .startPublicQueue) (h : s.returns ret docs = some s') :
    ∃ a', s'.stack = a' :: callers ∧ a'.managePc = a.managePc.next ret := by
  simp only [returns] at h
  split at h
  case h_1 f _ _ _ hcalls =>
    obtain ⟨rfl, rfl⟩ := List.cons.inj (hstack.symm.trans hcalls)
    rw [← Option.some.inj h]
    refine ⟨_, rfl, ?_⟩
    cases f with
    | startPublicQueue => exact absurd rfl hf
    | startBusinessQueue | restartBusinessQueue => rfl
  case h_2 hconsumer =>
    obtain ⟨rfl, -⟩ := List.cons.inj (hstack.symm.trans hconsumer)
    exact absurd rfl hf
  case h_3 hconsumer =>
    obtain ⟨rfl, rfl⟩ := List.cons.inj (hstack.symm.trans hconsumer)
    -- a failure of `Consumer` leaves the loop in both models
    split_ifs at h with hret
    · rw [← Option.some.inj h]
      exact ⟨_, rfl, (if_pos hret).symm⟩
    · rw [← Option.some.inj h]
      exact ⟨_, rfl, (if_neg hret).symm⟩
  case h_4 => cases h

lemma proceed_managePc (hstack : s.stack = a :: callers) (hf : a.function ≠ .startPublicQueue)
    (hflag : a.pc = .test → s.whileFlag = true) (h : s.proceed = some s') :
    ∃ a', s'.stack.head? = some a' ∧ a'.managePc = a.managePc := by
  obtain ⟨f, pc⟩ := a
  simp only [proceed, hstack] at h
  cases f with
  | startPublicQueue => exact absurd rfl hf
  | startBusinessQueue =>
    cases pc with
    | calls left =>
      cases left with
      | nil =>
        rw [← Option.some.inj h]
        exact ⟨_, rfl, rfl⟩
      | cons c left => cases h
    | test =>
      refine ⟨⟨.startBusinessQueue, .consumer⟩, ?_, rfl⟩
      rw [← Option.some.inj h, hflag rfl]
      rfl
    | consumer => cases h
    -- the restart takes the place of the loop that was left
    | left =>
      rw [← Option.some.inj h]
      exact ⟨_, rfl, rfl⟩
  | restartBusinessQueue =>
    cases pc with
    | calls left =>
      cases left with
      | nil =>
        rw [← Option.some.inj h]
        exact ⟨_, rfl, rfl⟩
      | cons c left => cases h
    | test =>
      refine ⟨⟨.restartBusinessQueue, .consumer⟩, ?_, rfl⟩
      rw [← Option.some.inj h, hflag rfl]
      rfl
    | consumer => cases h
    | left => cases h

end ReceivingThread

end DHGateway
