import DHGateway.Core.Run
import DHGateway.Session.SessionMange

/-!
# Stopping a stream at the same time

`stop_play` looks the session up, stops it and erases it from the map in three steps, and
`stopSession` tests, stops and clears each handle one after the other. Calls for one key interleave
at each access of a handle, at each call of the SDKs and where the map is locked.
-/

namespace DHGateway

open PlaySession

/-! ### Calls of `stop_play` -/

/-- What comes next in a call of `stop_play`: `opened` are the reads of the first test of
`stopSession`, and `argument` is the second read of a handle, for the SDK's function. -/
inductive StopPc where
  | getPlaySession
  | isRun
  | opened (k : StreamKind)
  | test (k : StreamKind)
  | argument (k : StreamKind)
  | stop (k : StreamKind) (h : LLONG)
  | clear (k : StreamKind)
  | testMedia
  | disconnect
  | clearMedia
  | delPlaySession
  | release
  | returned
  deriving DecidableEq

/-- The session, whether the map has it, how many pointers there are to it, and what was called for
it: the SDK's stop functions, and `XHNetSDK_Disconnect`. -/
structure SharedSession where
  session : PlaySession
  mapped : Bool
  useCount : ℕ
  stops : List (StreamKind × LLONG)
  disconnects : List NETHANDLE

/-- A call, with the value that it will return as far as it is known. -/
structure StopCall where
  ret : ℤ
  pc : StopPc

structure StopCalls where
  shared : SharedSession
  calls : List StopCall

/-- A call begins, or the one with a number goes on. -/
inductive StopAction where
  | call
  | step (i : ℕ)

/-- A pointer goes. With the last one `PlaySession::~PlaySession` runs, which calls
`disconnetMS`. -/
def SharedSession.drop (s : SharedSession) : SharedSession :=
  if s.useCount = 1 then
    { s with
      useCount := 0
      disconnects := s.disconnects ++
        if s.session.nMediaClient = 0 then [] else [s.session.nMediaClient] }
  else { s with useCount := s.useCount - 1 }

namespace StopPc

/-- The first test reads the handles in this order. -/
def afterOpened : StreamKind → StopPc
  | .record => .opened .download
  | .download => .opened .real
  | .real => .delPlaySession

/-- The blocks of `stopSession` have this order. -/
def afterStop : StreamKind → StopPc
  | .record => .test .real
  | .real => .test .download
  | .download => .testMedia

lemma afterOpened_ne (k : StreamKind) : afterOpened k ≠ .getPlaySession := by
  cases k <;> exact StopPc.noConfusion

lemma afterStop_ne (k : StreamKind) : afterStop k ≠ .getPlaySession := by
  cases k <;> exact StopPc.noConfusion

def Holds (pc : StopPc) : Prop := pc ≠ .getPlaySession ∧ pc ≠ .returned

end StopPc

namespace StopCall

/-- The next step of a call. `stopSession` begins with the result `0`. -/
def next (a : StopAnswers) (s : SharedSession) (c : StopCall) : SharedSession × StopCall :=
  match c.pc with
  | .getPlaySession =>
    if s.mapped then ({ s with useCount := s.useCount + 1 }, ⟨0, .isRun⟩)
    else (s, ⟨-1, .returned⟩)
  | .isRun => ({ s with session := { s.session with isRun := false } }, ⟨c.ret, .opened .record⟩)
  -- the test that ends `StopSession` at once when no handle is set
  | .opened k =>
    (s, ⟨c.ret, if s.session.handle k = 0 then .afterOpened k else .test .record⟩)
  | .test k => (s, ⟨c.ret, if s.session.handle k = 0 then .afterStop k else .argument k⟩)
  | .argument k => (s, ⟨c.ret, .stop k (s.session.handle k)⟩)
  | .stop k h =>
    ({ s with stops := s.stops ++ [(k, h)] },
      ⟨if a.stop k then c.ret else dhSdkGetLastError (a.lastError k), .clear k⟩)
  | .clear k => ({ s with session := s.session.clearHandle k }, ⟨c.ret, .afterStop k⟩)
  | .testMedia =>
    (s, ⟨c.ret, if s.session.nMediaClient = 0 then .delPlaySession else .disconnect⟩)
  | .disconnect =>
    ({ s with disconnects := s.disconnects ++ [s.session.nMediaClient] },
      ⟨c.ret, if a.disconnect = 0 then .clearMedia else .delPlaySession⟩)
  | .clearMedia =>
    ({ s with session := { s.session with nMediaClient := 0 } }, ⟨c.ret, .delPlaySession⟩)
  -- the map's `shared_ptr` goes, and after it the caller's
  | .delPlaySession =>
    (if s.mapped then { s with mapped := false }.drop else s, ⟨c.ret, .release⟩)
  | .release => (s.drop, ⟨c.ret, .returned⟩)
  | .returned => (s, c)

end StopCall

namespace StopCalls

/-- The session is in the map, which has the only pointer to it. -/
def start (s₀ : PlaySession) : StopCalls := ⟨⟨s₀, true, 1, [], []⟩, []⟩

def step (answers : ℕ → StopAnswers) (t : StopCalls) : StopAction → Option StopCalls
  | .call => some { t with calls := t.calls ++ [⟨-1, .getPlaySession⟩] }
  | .step i =>
    match t.calls[i]? with
    | none => none
    | some c =>
      if c.pc = .returned then none
      else
        let (shared, c') := c.next (answers i) t.shared
        some ⟨shared, t.calls.set i c'⟩

def Returned (t : StopCalls) (i : ℕ) (ret : ℤ) : Prop := t.calls[i]? = some ⟨ret, .returned⟩

end StopCalls

structure PlaySession.StopAnswers.Succeed (a : StopAnswers) : Prop where
  stop : ∀ k, a.stop k = true
  disconnect : a.disconnect = 0

/-! ### How far a call has stopped the session -/

namespace StopPc

/-- The place of a block of `stopSession`. -/
def rank : StreamKind → ℕ
  | .record => 0
  | .real => 1
  | .download => 2

def readRank : StreamKind → ℕ
  | .record => 0
  | .download => 1
  | .real => 2

lemma rank_injective : Function.Injective rank := by
  intro k k' h
  cases k <;> cases k' <;> first | rfl | cases h

lemma rank_lt_succ {k k' : StreamKind} (h : k' ≠ k) : rank k' < rank k + 1 ↔ rank k' < rank k := by
  have hne : rank k' ≠ rank k := fun hr => h (rank_injective hr)
  omega

lemma rank_lt (k : StreamKind) : rank k < 3 := by
  cases k <;> decide

lemma readRank_injective : Function.Injective readRank := by
  intro k k' h
  cases k <;> cases k' <;> first | rfl | cases h

lemma readRank_lt (k : StreamKind) : readRank k < 3 := by
  cases k <;> decide

end StopPc

/-- The first `stopped` streams are stopped and the handles of the first `cleared` are `0`; the rest
is untouched, and the map and one call have the session. -/
structure Stopping (s₀ : PlaySession) (stopped cleared : ℕ) (s : SharedSession) : Prop where
  handle : ∀ k, s.session.handle k = if StopPc.rank k < cleared then 0 else s₀.handle k
  stops : ∀ k, s₀.handle k ≠ 0 →
    s.stops.count (k, s₀.handle k) = if StopPc.rank k < stopped then 1 else 0
  nMediaClient : s.session.nMediaClient = s₀.nMediaClient
  disconnects : s.disconnects = []
  mapped : s.mapped = true
  useCount : s.useCount = 2

/-- All streams are stopped, and `disconnetMS` has been called or will be. -/
structure AllStopped (s₀ : PlaySession) (mapped : Bool) (useCount : ℕ) (s : SharedSession) :
    Prop where
  stops : ∀ k, s₀.handle k ≠ 0 → s.stops.count (k, s₀.handle k) = 1
  disconnects : s.disconnects = [] ∧ s.session.nMediaClient = s₀.nMediaClient ∨
    s.disconnects = [s₀.nMediaClient] ∧ (s.session.nMediaClient = 0 ∨ useCount = 0)
  mapped : s.mapped = mapped
  useCount : s.useCount = useCount

/-- What holds of the session when only one call has it, by what comes next in that call. -/
def Going (s₀ : PlaySession) (s : SharedSession) : StopPc → Prop
  | .getPlaySession => False
  | .isRun => Stopping s₀ 0 0 s
  | .opened k =>
    Stopping s₀ 0 0 s ∧ ∀ k', StopPc.readRank k' < StopPc.readRank k → s₀.handle k' = 0
  | .test k => Stopping s₀ (StopPc.rank k) (StopPc.rank k) s
  | .argument k => Stopping s₀ (StopPc.rank k) (StopPc.rank k) s ∧ s₀.handle k ≠ 0
  | .stop k h =>
    Stopping s₀ (StopPc.rank k) (StopPc.rank k) s ∧ s₀.handle k ≠ 0 ∧ h = s₀.handle k
  | .clear k => Stopping s₀ (StopPc.rank k + 1) (StopPc.rank k) s
  | .testMedia => Stopping s₀ 3 3 s
  | .disconnect => Stopping s₀ 3 3 s ∧ s₀.nMediaClient ≠ 0
  | .clearMedia =>
    (∀ k, s₀.handle k ≠ 0 → s.stops.count (k, s₀.handle k) = 1) ∧
      s.disconnects = [s₀.nMediaClient] ∧ s.mapped = true ∧ s.useCount = 2
  | .delPlaySession => AllStopped s₀ true 2 s
  | .release => AllStopped s₀ false 1 s
  | .returned => AllStopped s₀ false 0 s

section

variable {s₀ : PlaySession} {s : SharedSession} {stopped cleared : ℕ}

lemma Stopping.allStopped (h : Stopping s₀ 3 3 s) : AllStopped s₀ true 2 s where
  stops := by
    intro k hk
    rw [h.stops k hk, if_pos (StopPc.rank_lt k)]
  disconnects := Or.inl ⟨h.disconnects, h.nMediaClient⟩
  mapped := h.mapped
  useCount := h.useCount

lemma Stopping.allStopped_of_none (h : Stopping s₀ 0 0 s) (hnone : ∀ k, s₀.handle k = 0) :
    AllStopped s₀ true 2 s where
  stops := fun k hk => absurd (hnone k) hk
  disconnects := Or.inl ⟨h.disconnects, h.nMediaClient⟩
  mapped := h.mapped
  useCount := h.useCount

lemma Stopping.handle_rank {k : StreamKind} (h : Stopping s₀ stopped (StopPc.rank k) s) :
    s.session.handle k = s₀.handle k := by
  rw [h.handle k, if_neg (lt_irrefl _)]

lemma Stopping.skip {k : StreamKind} (h : Stopping s₀ (StopPc.rank k) (StopPc.rank k) s)
    (hk : s₀.handle k = 0) : Stopping s₀ (StopPc.rank k + 1) (StopPc.rank k + 1) s := by
  refine { h with handle := fun k' => ?_, stops := fun k' hk' => ?_ }
  · rw [h.handle k']
    by_cases heq : k' = k
    · rw [heq, hk, ite_self, ite_self]
    · simp only [StopPc.rank_lt_succ heq]
  · have heq : k' ≠ k := fun heq => hk' (heq ▸ hk)
    rw [h.stops k' hk']
    simp only [StopPc.rank_lt_succ heq]

lemma Stopping.stop {k : StreamKind} (h : Stopping s₀ (StopPc.rank k) (StopPc.rank k) s) :
    Stopping s₀ (StopPc.rank k + 1) (StopPc.rank k)
      { s with stops := s.stops ++ [(k, s₀.handle k)] } := by
  refine { h with stops := fun k' hk' => ?_ }
  show (s.stops ++ [(k, s₀.handle k)]).count (k', s₀.handle k') = _
  rw [List.count_append, h.stops k' hk', List.count_singleton]
  by_cases heq : k' = k
  · subst heq
    rw [if_neg (lt_irrefl _), if_pos (Nat.lt_succ_self _), if_pos (beq_self_eq_true _)]
  · have hpair : ((k, s₀.handle k) == (k', s₀.handle k')) = false :=
      beq_false_of_ne fun hp => heq (congrArg Prod.fst hp).symm
    rw [hpair]
    simp only [StopPc.rank_lt_succ heq, Bool.false_eq_true, if_false, Nat.add_zero]

lemma handle_clearHandle_self (p : PlaySession) (k : StreamKind) :
    (p.clearHandle k).handle k = 0 := by
  cases k <;> rfl

lemma Stopping.clear {k : StreamKind} (h : Stopping s₀ (StopPc.rank k + 1) (StopPc.rank k) s) :
    Stopping s₀ (StopPc.rank k + 1) (StopPc.rank k + 1)
      { s with session := s.session.clearHandle k } := by
  refine { h with handle := fun k' => ?_, nMediaClient := ?_ }
  · show (s.session.clearHandle k).handle k' = _
    by_cases heq : k' = k
    · rw [heq, handle_clearHandle_self, if_pos (Nat.lt_succ_self _)]
    · rw [handle_clearHandle_ne s.session heq, h.handle k']
      simp only [StopPc.rank_lt_succ heq]
  · rw [← h.nMediaClient]
    cases k <;> rfl

lemma Stopping.isRun (h : Stopping s₀ 0 0 s) :
    Stopping s₀ 0 0 { s with session := { s.session with isRun := false } } := by
  refine { h with handle := fun k => ?_ }
  rw [← h.handle k]
  cases k <;> rfl

lemma Stopping.afterStop {k : StreamKind}
    (h : Stopping s₀ (StopPc.rank k + 1) (StopPc.rank k + 1) s) : Going s₀ s (.afterStop k) := by
  cases k with
  | record => exact h
  | real => exact h
  | download => exact h

lemma Stopping.afterOpened {k : StreamKind} (h : Stopping s₀ 0 0 s)
    (hread : ∀ k', StopPc.readRank k' < StopPc.readRank k → s₀.handle k' = 0)
    (hk : s₀.handle k = 0) : Going s₀ s (.afterOpened k) := by
  have hle : ∀ k', StopPc.readRank k' < StopPc.readRank k + 1 → s₀.handle k' = 0 := by
    intro k' hlt
    rcases Nat.lt_succ_iff_lt_or_eq.mp hlt with hlt | heq
    · exact hread k' hlt
    · rw [StopPc.readRank_injective heq]
      exact hk
  cases k with
  | record => exact ⟨h, hle⟩
  | download => exact ⟨h, hle⟩
  | real => exact h.allStopped_of_none fun k' => hle k' (StopPc.readRank_lt k')

lemma AllStopped.delPlaySession (h : AllStopped s₀ true 2 s) :
    AllStopped s₀ false 1 (SharedSession.drop { s with mapped := false }) := by
  have hdrop : SharedSession.drop { s with mapped := false } =
      { s with mapped := false, useCount := 1 } := by
    rw [SharedSession.drop, if_neg]
    · show SharedSession.mk _ _ (s.useCount - 1) _ _ = _
      rw [h.useCount]
    · rw [h.useCount]
      decide
  rw [hdrop]
  refine ⟨h.stops, ?_, rfl, rfl⟩
  rcases h.disconnects with hcon | ⟨hdis, hzero | hzero⟩
  · exact Or.inl hcon
  · exact Or.inr ⟨hdis, Or.inl hzero⟩
  · cases hzero

lemma AllStopped.release (h : AllStopped s₀ false 1 s) : AllStopped s₀ false 0 s.drop := by
  rw [SharedSession.drop, if_pos h.useCount]
  refine ⟨h.stops, ?_, h.mapped, rfl⟩
  show s.disconnects ++ _ = [] ∧ _ ∨ s.disconnects ++ _ = _ ∧ _
  rcases h.disconnects with ⟨hdis, hclient⟩ | ⟨hdis, hzero | hzero⟩
  · rw [hdis, hclient, List.nil_append]
    by_cases hmedia : s₀.nMediaClient = 0
    · rw [if_pos hmedia]
      exact Or.inl ⟨rfl, rfl⟩
    · rw [if_neg hmedia]
      exact Or.inr ⟨rfl, Or.inr rfl⟩
  · rw [if_pos hzero, List.append_nil]
    exact Or.inr ⟨hdis, Or.inr rfl⟩
  · cases hzero

lemma Going.next {a : StopAnswers} (ha : a.Succeed) {c : StopCall} (h : Going s₀ s c.pc) :
    Going s₀ (c.next a s).1 (c.next a s).2.pc := by
  obtain ⟨ret, pc⟩ := c
  cases pc with
  | getPlaySession => exact h.elim
  | isRun =>
    refine ⟨Stopping.isRun h, fun k' hk' => absurd hk' (Nat.not_lt_zero _)⟩
  | opened k =>
    obtain ⟨hstop, hread⟩ := h
    -- no handle is cleared before the first test is through
    have hk : s.session.handle k = s₀.handle k := by
      rw [hstop.handle k, if_neg (Nat.not_lt_zero _)]
    show Going s₀ s (if s.session.handle k = 0 then _ else _)
    by_cases hzero : s.session.handle k = 0
    · rw [if_pos hzero]
      exact hstop.afterOpened hread (hk ▸ hzero)
    · rw [if_neg hzero]
      exact hstop
  | test k =>
    have hstop : Stopping s₀ _ _ s := h
    show Going s₀ s (if s.session.handle k = 0 then _ else _)
    by_cases hzero : s.session.handle k = 0
    · rw [if_pos hzero]
      exact (hstop.skip (hstop.handle_rank ▸ hzero)).afterStop
    · rw [if_neg hzero]
      exact ⟨hstop, hstop.handle_rank ▸ hzero⟩
  | argument k =>
    obtain ⟨hstop, hne⟩ := h
    exact ⟨hstop, hne, hstop.handle_rank⟩
  | stop k h' =>
    obtain ⟨hstop, hne, rfl⟩ := h
    exact hstop.stop
  | clear k => exact (Stopping.clear h).afterStop
  | testMedia =>
    have hstop : Stopping s₀ 3 3 s := h
    show Going s₀ s (if s.session.nMediaClient = 0 then _ else _)
    by_cases hzero : s.session.nMediaClient = 0
    · rw [if_pos hzero]
      exact hstop.allStopped
    · rw [if_neg hzero]
      exact ⟨hstop, hstop.nMediaClient ▸ hzero⟩
  | disconnect =>
    obtain ⟨hstop, hne⟩ := h
    show Going s₀ _ (if a.disconnect = 0 then _ else _)
    rw [if_pos ha.disconnect]
    refine ⟨hstop.allStopped.stops, ?_, hstop.mapped, hstop.useCount⟩
    show s.disconnects ++ [s.session.nMediaClient] = _
    rw [hstop.disconnects, hstop.nMediaClient]
    rfl
  | clearMedia =>
    obtain ⟨hstops, hdis, hmapped, hcount⟩ := h
    exact ⟨hstops, Or.inr ⟨hdis, Or.inl rfl⟩, hmapped, hcount⟩
  | delPlaySession =>
    have hall : AllStopped s₀ true 2 s := h
    show Going s₀ (if s.mapped then _ else _) .release
    rw [if_pos hall.mapped]
    exact hall.delPlaySession
  | release => exact AllStopped.release h
  | returned => exact h

lemma Going.stage {pc : StopPc} (h : Going s₀ s pc) : (∃ m n, Stopping s₀ m n s) ∨
    (∀ k, s₀.handle k ≠ 0 → s.stops.count (k, s₀.handle k) = 1) ∧
      (s.disconnects = [] ∨ s.disconnects = [s₀.nMediaClient]) := by
  have hall : ∀ {b : Bool} {n : ℕ}, AllStopped s₀ b n s →
      (∀ k, s₀.handle k ≠ 0 → s.stops.count (k, s₀.handle k) = 1) ∧
        (s.disconnects = [] ∨ s.disconnects = [s₀.nMediaClient]) :=
    fun hs => ⟨hs.stops, hs.disconnects.imp And.left And.left⟩
  cases pc with
  | getPlaySession => exact h.elim
  | isRun => exact Or.inl ⟨_, _, h⟩
  | opened k => exact Or.inl ⟨_, _, h.1⟩
  | test k => exact Or.inl ⟨_, _, h⟩
  | argument k => exact Or.inl ⟨_, _, h.1⟩
  | stop k h' => exact Or.inl ⟨_, _, h.1⟩
  | clear k => exact Or.inl ⟨_, _, h⟩
  | testMedia => exact Or.inl ⟨_, _, h⟩
  | disconnect => exact Or.inl ⟨_, _, h.1⟩
  | clearMedia => exact Or.inr ⟨h.1, Or.inr h.2.1⟩
  | delPlaySession => exact Or.inr (hall h)
  | release => exact Or.inr (hall h)
  | returned => exact Or.inr (hall h)

lemma Going.stops_le {pc : StopPc} (h : Going s₀ s pc) (k : StreamKind) (hk : s₀.handle k ≠ 0) :
    s.stops.count (k, s₀.handle k) ≤ 1 := by
  rcases h.stage with ⟨m, n, hs⟩ | ⟨hstops, -⟩
  · rw [hs.stops k hk]
    split_ifs
    · exact le_rfl
    · exact Nat.zero_le 1
  · exact (hstops k hk).le

lemma Going.disconnects {pc : StopPc} (h : Going s₀ s pc) :
    s.disconnects = [] ∨ s.disconnects = [s₀.nMediaClient] := by
  rcases h.stage with ⟨m, n, hs⟩ | ⟨-, hdis⟩
  · exact Or.inl hs.disconnects
  · exact hdis

/-- While the map has the session, the call is between its lookup and the erasing. -/
lemma Going.holds {pc : StopPc} (h : Going s₀ s pc) (hmapped : s.mapped = true) : pc.Holds := by
  constructor
  · rintro rfl
    exact h
  · rintro rfl
    rw [AllStopped.mapped h] at hmapped
    cases hmapped

end

namespace StopCall

variable {a : StopAnswers} {s : SharedSession} {c : StopCall}

/-- Behind the lookup a call keeps its result when the SDKs succeed. -/
lemma next_found (ha : a.Succeed) (hpc : c.pc ≠ .getPlaySession) :
    (c.next a s).2.ret = c.ret ∧ (c.next a s).2.pc ≠ .getPlaySession := by
  obtain ⟨ret, pc⟩ := c
  have hite : ∀ {p : Prop} [Decidable p] {pc pc' : StopPc}, pc ≠ .getPlaySession →
      pc' ≠ .getPlaySession → (if p then pc else pc') ≠ .getPlaySession := by
    intro p _ pc pc' h h'
    split_ifs
    · exact h
    · exact h'
  cases pc with
  | getPlaySession => exact absurd rfl hpc
  | isRun => exact ⟨rfl, StopPc.noConfusion⟩
  | opened k => exact ⟨rfl, hite (StopPc.afterOpened_ne k) StopPc.noConfusion⟩
  | test k => exact ⟨rfl, hite (StopPc.afterStop_ne k) StopPc.noConfusion⟩
  | argument k => exact ⟨rfl, StopPc.noConfusion⟩
  | stop k h => exact ⟨if_pos (ha.stop k), StopPc.noConfusion⟩
  | clear k => exact ⟨rfl, StopPc.afterStop_ne k⟩
  | testMedia => exact ⟨rfl, hite StopPc.noConfusion StopPc.noConfusion⟩
  | disconnect => exact ⟨rfl, hite StopPc.noConfusion StopPc.noConfusion⟩
  | clearMedia => exact ⟨rfl, StopPc.noConfusion⟩
  | delPlaySession => exact ⟨rfl, StopPc.noConfusion⟩
  | release => exact ⟨rfl, StopPc.noConfusion⟩
  | returned => exact ⟨rfl, StopPc.noConfusion⟩

end StopCall

namespace StopCalls

variable {answers : ℕ → StopAnswers} {t t' : StopCalls}

lemma step_step {i : ℕ} (h : step answers t (.step i) = some t') :
    ∃ c, t.calls[i]? = some c ∧ c.pc ≠ .returned ∧ t' =
      ⟨(c.next (answers i) t.shared).1, t.calls.set i (c.next (answers i) t.shared).2⟩ := by
  simp only [step] at h
  split at h
  · cases h
  · rename_i c hc
    split_ifs at h with hret
    exact ⟨c, hc, hret, (Option.some.inj h).symm⟩

/-! ### A call that is the only one -/

/-- Steps of the only call lead from one state to another. -/
def Reaches (a : StopAnswers) (t t' : StopCalls) : Prop :=
  ∃ n, Run.run (step fun _ => a) t (List.replicate n (.step 0)) = some t'

section

variable {a : StopAnswers} {s : SharedSession} {c : StopCall} {ret : ℤ} {u : StopCalls}

lemma Reaches.head {s' : SharedSession} {c' : StopCall} (hpc : c.pc ≠ .returned)
    (hnext : c.next a s = (s', c')) (h : Reaches a ⟨s', [c']⟩ u) : Reaches a ⟨s, [c]⟩ u := by
  obtain ⟨n, hrun⟩ := h
  have hstep : step (fun _ => a) ⟨s, [c]⟩ (.step 0) = some ⟨s', [c']⟩ := by
    show (if c.pc = .returned then none
      else some (StopCalls.mk (c.next a s).1 [(c.next a s).2])) = _
    rw [if_neg hpc, hnext]
  exact ⟨n + 1, Run.run_cons.mpr ⟨_, hstep, hrun⟩⟩

lemma reaches_stopHandle {k : StreamKind} {r : Stopped}
    (hr : stopHandle a ⟨ret, s.session, s.stops⟩ k = r)
    (h : Reaches a ⟨{ s with session := r.session, stops := r.stops },
      [⟨r.ret, .afterStop k⟩]⟩ u) : Reaches a ⟨s, [⟨ret, .test k⟩]⟩ u := by
  rw [stopHandle] at hr
  dsimp only at hr
  by_cases hk : s.session.handle k = 0
  · rw [if_neg (not_not_intro hk)] at hr
    subst hr
    have htest : StopCall.next a s ⟨ret, .test k⟩ = (s, ⟨ret, .afterStop k⟩) := by
      simp only [StopCall.next, if_pos hk]
    exact Reaches.head StopPc.noConfusion htest h
  · rw [if_pos hk] at hr
    subst hr
    have htest : StopCall.next a s ⟨ret, .test k⟩ = (s, ⟨ret, .argument k⟩) := by
      simp only [StopCall.next, if_neg hk]
    refine Reaches.head StopPc.noConfusion htest ?_
    refine Reaches.head StopPc.noConfusion rfl ?_
    refine Reaches.head StopPc.noConfusion rfl ?_
    exact Reaches.head StopPc.noConfusion rfl h

lemma reaches_delPlaySession (ret : ℤ) (hmapped : s.mapped = true) (hcount : s.useCount = 2) :
    ∃ s', Reaches a ⟨s, [⟨ret, .delPlaySession⟩]⟩ ⟨s', [⟨ret, .returned⟩]⟩ ∧
      s'.session = s.session ∧ s'.stops = s.stops ∧ s'.mapped = false := by
  obtain ⟨session, mapped, useCount, stops, disconnects⟩ := s
  obtain rfl : mapped = true := hmapped
  obtain rfl : useCount = 2 := hcount
  have hreach : Reaches a ⟨⟨session, true, 2, stops, disconnects⟩, [⟨ret, .delPlaySession⟩]⟩
      ⟨SharedSession.drop ⟨session, false, 1, stops, disconnects⟩, [⟨ret, .returned⟩]⟩ := by
    refine Reaches.head StopPc.noConfusion rfl ?_
    exact Reaches.head StopPc.noConfusion rfl ⟨0, rfl⟩
  exact ⟨_, hreach, rfl, rfl, rfl⟩

lemma reaches_disconnetMS (ret : ℤ) (hmapped : s.mapped = true) (hcount : s.useCount = 2) :
    ∃ s', Reaches a ⟨s, [⟨ret, .testMedia⟩]⟩ ⟨s', [⟨ret, .returned⟩]⟩ ∧
      s'.session = s.session.disconnetMS a.disconnect ∧ s'.stops = s.stops ∧
        s'.mapped = false := by
  by_cases hmedia : s.session.nMediaClient = 0
  · have htest : StopCall.next a s ⟨ret, .testMedia⟩ = (s, ⟨ret, .delPlaySession⟩) := by
      simp only [StopCall.next, if_pos hmedia]
    obtain ⟨s', hreach, hsession, hrest⟩ := reaches_delPlaySession (a := a) ret hmapped hcount
    refine ⟨s', Reaches.head StopPc.noConfusion htest hreach, ?_, hrest⟩
    rw [hsession, disconnetMS, if_pos hmedia]
  · have htest : StopCall.next a s ⟨ret, .testMedia⟩ = (s, ⟨ret, .disconnect⟩) := by
      simp only [StopCall.next, if_neg hmedia]
    let s₁ := { s with disconnects := s.disconnects ++ [s.session.nMediaClient] }
    by_cases hval : a.disconnect = 0
    · have hcall : StopCall.next a s ⟨ret, .disconnect⟩ = (s₁, ⟨ret, .clearMedia⟩) := by
        simp only [StopCall.next, if_pos hval, s₁]
      obtain ⟨s', hreach, hsession, hrest⟩ := reaches_delPlaySession (a := a)
        (s := { s₁ with session := { s.session with nMediaClient := 0 } }) ret hmapped hcount
      refine ⟨s', Reaches.head StopPc.noConfusion htest ?_, ?_, hrest⟩
      · refine Reaches.head StopPc.noConfusion hcall ?_
        exact Reaches.head StopPc.noConfusion rfl hreach
      · rw [hsession, disconnetMS, if_neg hmedia, if_pos hval]
    · have hcall : StopCall.next a s ⟨ret, .disconnect⟩ = (s₁, ⟨ret, .delPlaySession⟩) := by
        simp only [StopCall.next, if_neg hval, s₁]
      obtain ⟨s', hreach, hsession, hrest⟩ := reaches_delPlaySession (a := a) (s := s₁) ret
        hmapped hcount
      refine ⟨s', Reaches.head StopPc.noConfusion htest ?_, ?_, hrest⟩
      · exact Reaches.head StopPc.noConfusion hcall hreach
      · rw [hsession, disconnetMS, if_neg hmedia, if_neg hval]

lemma reaches_opened {k : StreamKind} (h : Reaches a ⟨s,
      [⟨ret, if s.session.handle k = 0 then .afterOpened k else .test .record⟩]⟩ u) :
    Reaches a ⟨s, [⟨ret, .opened k⟩]⟩ u :=
  Reaches.head StopPc.noConfusion rfl h

lemma reaches_test (hopen : ¬ (s.session.handle .record = 0 ∧ s.session.handle .download = 0 ∧
      s.session.handle .real = 0)) (h : Reaches a ⟨s, [⟨ret, .test .record⟩]⟩ u) :
    Reaches a ⟨s, [⟨ret, .opened .record⟩]⟩ u := by
  apply reaches_opened
  by_cases hrecord : s.session.handle .record = 0
  · rw [if_pos hrecord]
    apply reaches_opened
    by_cases hdownload : s.session.handle .download = 0
    · rw [if_pos hdownload]
      apply reaches_opened
      rw [if_neg fun hreal => hopen ⟨hrecord, hdownload, hreal⟩]
      exact h
    · rw [if_neg hdownload]
      exact h
  · rw [if_neg hrecord]
    exact h

end

/-- A call that is the only one does what `stopSession` does, and erases the session. -/
theorem call_alone (s₀ : PlaySession) (a : StopAnswers) :
    ∃ t, (∃ n, Run.run (step fun _ => a) (start s₀) (.call :: List.replicate n (.step 0)) =
        some t) ∧ t.Returned 0 (s₀.stopSession a).ret ∧
      t.shared.session = (s₀.stopSession a).session ∧
      t.shared.stops = (s₀.stopSession a).stops ∧ t.shared.mapped = false := by
  suffices h : ∃ s', Reaches a ⟨(start s₀).shared, [⟨-1, .getPlaySession⟩]⟩
      ⟨s', [⟨(s₀.stopSession a).ret, .returned⟩]⟩ ∧ s'.session = (s₀.stopSession a).session ∧
        s'.stops = (s₀.stopSession a).stops ∧ s'.mapped = false by
    obtain ⟨s', ⟨n, hrun⟩, hrest⟩ := h
    exact ⟨_, ⟨n, Run.run_cons.mpr ⟨_, rfl, hrun⟩⟩, rfl, hrest⟩
  let s : SharedSession := ⟨{ s₀ with isRun := false }, true, 2, [], []⟩
  -- the lookup and the store of `_is_run`
  have hfirst : ∀ {u}, Reaches a ⟨s, [⟨0, .opened .record⟩]⟩ u →
      Reaches a ⟨(start s₀).shared, [⟨-1, .getPlaySession⟩]⟩ u := fun h =>
    Reaches.head StopPc.noConfusion rfl (Reaches.head StopPc.noConfusion rfl h)
  by_cases hnone : s.session.handle .record = 0 ∧ s.session.handle .download = 0 ∧
      s.session.handle .real = 0
  · have hstop : s₀.stopSession a = ⟨0, s.session, []⟩ := if_pos hnone
    obtain ⟨s', hreach, hrest⟩ := reaches_delPlaySession (a := a) (s := s) 0 rfl rfl
    rw [hstop]
    refine ⟨s', hfirst ?_, hrest⟩
    apply reaches_opened
    rw [if_pos hnone.1]
    apply reaches_opened
    rw [if_pos hnone.2.1]
    apply reaches_opened
    rw [if_pos hnone.2.2]
    exact hreach
  · let r := [StreamKind.record, .real, .download].foldl (stopHandle a) ⟨0, s.session, []⟩
    have hstop : s₀.stopSession a = { r with session := r.session.disconnetMS a.disconnect } :=
      if_neg hnone
    obtain ⟨s', hreach, hrest⟩ := reaches_disconnetMS (a := a)
      (s := { s with session := r.session, stops := r.stops }) r.ret rfl rfl
    rw [hstop]
    refine ⟨s', hfirst (reaches_test hnone ?_), hrest⟩
    refine reaches_stopHandle rfl ?_
    refine reaches_stopHandle rfl ?_
    exact reaches_stopHandle rfl hreach

end StopCalls

end DHGateway
