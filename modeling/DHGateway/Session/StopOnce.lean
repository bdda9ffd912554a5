import DHGateway.Core.Run
import DHGateway.Core.Threads
import DHGateway.Session.StopCalls

/-!
# Stopping a stream once

What calls of `stop_play` for one key come to when they overlap.
-/

namespace DHGateway

open PlaySession

namespace StopCalls

def Done (t : StopCalls) : Prop := ∀ c ∈ t.calls, c.pc = .returned

/-- So far each stream of the session and its connection are stopped at most once, and at most one
call has returned `0`, the others `-1`. At the end each stream was stopped, and one call has
returned `0`. -/
structure StopsOnce (s₀ : PlaySession) (t : StopCalls) : Prop where
  stops : ∀ k, s₀.handle k ≠ 0 → t.shared.stops.count (k, s₀.handle k) ≤ 1
  disconnects : ∀ h, h ≠ 0 → t.shared.disconnects.count h ≤ 1
  result : ∀ i ret, t.Returned i ret → ret = 0 ∨ ret = -1
  unique : ∀ i j, t.Returned i 0 → t.Returned j 0 → i = j
  done : t.Done → t.calls ≠ [] →
    (∀ k, s₀.handle k ≠ 0 → t.shared.stops.count (k, s₀.handle k) = 1) ∧ ∃ i, t.Returned i 0

/-- A call that finds the session in the map is the only one that has it. -/
def Alone (t : StopCalls) : StopAction → Prop
  | .call => True
  | .step i => ∀ c, t.calls[i]? = some c → c.pc = .getPlaySession → t.shared.mapped = true →
      ∀ c' ∈ t.calls, ¬ c'.pc.Holds

variable {s₀ : PlaySession} {answers : ℕ → StopAnswers} {t t' : StopCalls}

/-! ### One call has the session -/

/-- A call that the session is not for: it has not begun, or has not found it. -/
def Beside (c : StopCall) : Prop := c.pc = .getPlaySession ∨ c = ⟨-1, .returned⟩

/-- No call has looked the session up, or one has found it and goes on alone. -/
inductive Inv (s₀ : PlaySession) (t : StopCalls) : Prop where
  | idle (hshared : t.shared = (start s₀).shared)
      (hcalls : ∀ c ∈ t.calls, c.pc = .getPlaySession)
  | one (j : ℕ) (pc : StopPc) (hj : t.calls[j]? = some ⟨0, pc⟩) (hgoing : Going s₀ t.shared pc)
      (hbeside : ∀ i c, i ≠ j → t.calls[i]? = some c → Beside c)

lemma inv_start (s₀ : PlaySession) : Inv s₀ (start s₀) :=
  .idle rfl fun _ hc => absurd hc List.not_mem_nil

lemma Inv.call (h : Inv s₀ t) :
    Inv s₀ { t with calls := t.calls ++ [⟨-1, .getPlaySession⟩] } := by
  cases h with
  | idle hshared hcalls =>
    refine .idle hshared fun c hc => ?_
    rcases List.mem_append.mp hc with hc | hc
    · exact hcalls c hc
    · rw [List.mem_singleton.mp hc]
  | one j pc hj hgoing hbeside =>
    have hlt : j < t.calls.length := (List.getElem?_eq_some_iff.mp hj).1
    refine .one j pc ((List.getElem?_append_left hlt).trans hj) hgoing fun i c hi hc => ?_
    rcases lt_or_ge i t.calls.length with hlt | hge
    · rw [List.getElem?_append_left hlt] at hc
      exact hbeside i c hi hc
    · rw [List.getElem?_append_right hge] at hc
      rw [List.mem_singleton.mp (List.mem_of_getElem? hc)]
      exact Or.inl rfl

lemma Inv.find {i : ℕ} {c : StopCall} (hshared : t.shared = (start s₀).shared)
    (hcalls : ∀ c ∈ t.calls, c.pc = .getPlaySession) (hc : t.calls[i]? = some c) (a : StopAnswers) :
    Inv s₀ ⟨(c.next a t.shared).1, t.calls.set i (c.next a t.shared).2⟩ := by
  have hlt : i < t.calls.length := (List.getElem?_eq_some_iff.mp hc).1
  -- the call finds the session, of which the map has the other pointer
  have hnext : c.next a t.shared = ({ t.shared with useCount := 2 }, ⟨0, .isRun⟩) := by
    simp only [StopCall.next, hcalls c (List.mem_of_getElem? hc)]
    rw [hshared]
    rfl
  rw [hnext]
  refine .one i .isRun (List.getElem?_set_self hlt) ?_ fun j c' hj hc' => ?_
  · rw [hshared]
    refine ⟨fun k => ?_, fun k _ => ?_, rfl, rfl, rfl, rfl⟩
    · rw [if_neg (Nat.not_lt_zero _)]
      rfl
    · rw [if_neg (Nat.not_lt_zero _)]
      rfl
  · rw [List.getElem?_set_ne (Ne.symm hj)] at hc'
    exact Or.inl (hcalls c' (List.mem_of_getElem? hc'))

lemma Inv.step (hsucc : ∀ i, (answers i).Succeed) {act : StopAction} (h : Inv s₀ t)
    (halone : t.Alone act) (hs : step answers t act = some t') : Inv s₀ t' := by
  cases act with
  | call =>
    rw [← Option.some.inj hs]
    exact h.call
  | step i =>
    obtain ⟨c, hc, hret, rfl⟩ := step_step hs
    cases h with
    | idle hshared hcalls => exact .find hshared hcalls hc (answers i)
    | one j pc hj hgoing hbeside =>
      by_cases hij : i = j
      · subst hij
        rw [hj] at hc
        obtain rfl := Option.some.inj hc
        have hlt : i < t.calls.length := (List.getElem?_eq_some_iff.mp hj).1
        have hpc : pc ≠ .getPlaySession := by
          rintro rfl
          exact hgoing
        have hnext := StopCall.next_found (s := t.shared) (c := ⟨0, pc⟩) (hsucc i) hpc
        refine .one i _ ?_ (Going.next (c := ⟨0, pc⟩) (hsucc i) hgoing) fun i' c' hi' hc' => ?_
        · rw [List.getElem?_set_self hlt]
          congr 1
          exact congrArg (StopCall.mk · _) hnext.1
        · rw [List.getElem?_set_ne (Ne.symm hi')] at hc'
          exact hbeside i' c' hi' hc'
      · -- the map cannot have the session: the lookup would not be alone
        have hpc : c.pc = .getPlaySession := by
          rcases hbeside i c hij hc with hpc | rfl
          · exact hpc
          · exact absurd rfl hret
        have hmapped : t.shared.mapped = false := by
          apply Bool.eq_false_iff.mpr
          intro hmapped
          exact halone c hc hpc hmapped _ (List.mem_of_getElem? hj) (hgoing.holds hmapped)
        have hnext : c.next (answers i) t.shared = (t.shared, ⟨-1, .returned⟩) := by
          simp only [StopCall.next, hpc, hmapped, Bool.false_eq_true, if_false]
        rw [hnext]
        refine .one j pc ?_ hgoing fun i' c' hi' hc' => ?_
        · rw [List.getElem?_set_ne hij]
          exact hj
        · rcases Threads.getElem?_set_cases hc' with ⟨_, rfl⟩ | ⟨_, hc'⟩
          · exact Or.inr rfl
          · exact hbeside i' c' hi' hc'

lemma Inv.stopsOnce (h : Inv s₀ t) : StopsOnce s₀ t := by
  cases h with
  | idle hshared hcalls =>
    have hnone : ∀ i ret, ¬ t.Returned i ret := by
      intro i ret hr
      exact StopPc.noConfusion (hcalls _ (List.mem_of_getElem? hr))
    refine ⟨fun k _ => ?_, fun h _ => ?_, fun i ret hr => absurd hr (hnone i ret),
      fun i j hi => absurd hi (hnone i 0), fun hdone hne => ?_⟩
    · rw [hshared]
      exact Nat.zero_le 1
    · rw [hshared]
      exact Nat.zero_le 1
    · obtain ⟨c, hc⟩ := List.exists_mem_of_ne_nil _ hne
      exact StopPc.noConfusion ((hcalls c hc).symm.trans (hdone c hc))
  | one j pc hj hgoing hbeside =>
    have hother : ∀ i ret, i ≠ j → t.Returned i ret → ret = -1 := by
      intro i ret hij hr
      rcases hbeside i _ hij hr with hpc | heq
      · exact StopPc.noConfusion hpc
      · exact congrArg StopCall.ret heq
    refine ⟨hgoing.stops_le, fun h hne => ?_, fun i ret hr => ?_, fun i i' hi hi' => ?_,
      fun hdone hne => ?_⟩
    · rcases hgoing.disconnects with hdis | hdis
      · rw [hdis]
        exact Nat.zero_le 1
      · rw [hdis, List.count_singleton]
        split_ifs
        · exact le_rfl
        · exact Nat.zero_le 1
    · by_cases hij : i = j
      · subst hij
        rw [Returned, hj] at hr
        exact Or.inl (congrArg StopCall.ret (Option.some.inj hr)).symm
      · exact Or.inr (hother i ret hij hr)
    · have hzero : ∀ i, t.Returned i 0 → i = j := by
        intro i hi
        by_contra hij
        exact absurd (hother i 0 hij hi) (by decide)
      rw [hzero i hi, hzero i' hi']
    · obtain rfl : pc = .returned := hdone _ (List.mem_of_getElem? hj)
      exact ⟨AllStopped.stops hgoing, j, hj⟩

/-! ### Calls that have found the session -/

/-- A call has found the session, and its result is `0` so far. -/
def Found (t : StopCalls) (i : ℕ) : Prop :=
  ∃ c, t.calls[i]? = some c ∧ c.pc ≠ .getPlaySession ∧ c.ret = 0

/-- The calls that have the session have the result `0` so far. -/
def Zero (t : StopCalls) : Prop := ∀ c ∈ t.calls, c.pc.Holds → c.ret = 0

lemma Found.step (hsucc : ∀ i, (answers i).Succeed) {j : ℕ} {act : StopAction} (h : t.Found j)
    (hs : step answers t act = some t') : t'.Found j := by
  obtain ⟨c, hc, hpc, hret⟩ := h
  have hlt : j < t.calls.length := (List.getElem?_eq_some_iff.mp hc).1
  cases act with
  | call =>
    rw [← Option.some.inj hs]
    exact ⟨c, (List.getElem?_append_left hlt).trans hc, hpc, hret⟩
  | step i =>
    obtain ⟨c', hc', -, rfl⟩ := step_step hs
    by_cases hij : i = j
    · -- the call that found the session never looks it up again
      subst hij
      rw [hc'] at hc
      obtain rfl := Option.some.inj hc
      obtain ⟨hnext, hpc'⟩ := StopCall.next_found (s := t.shared) (hsucc i) hpc
      exact ⟨_, List.getElem?_set_self hlt, hpc', hnext.trans hret⟩
    · exact ⟨c, (List.getElem?_set_ne hij).trans hc, hpc, hret⟩

lemma next_zero (hsucc : ∀ i, (answers i).Succeed) {c : StopCall} (i : ℕ) (s : SharedSession)
    (hpc : c.pc ≠ .returned) (h : c.pc.Holds → c.ret = 0)
    (hholds : (c.next (answers i) s).2.pc.Holds) : (c.next (answers i) s).2.ret = 0 := by
  by_cases hfirst : c.pc = .getPlaySession
  · rw [StopCall.next, hfirst] at hholds ⊢
    dsimp only at hholds ⊢
    by_cases hmapped : s.mapped = true
    · rw [if_pos hmapped]
    · rw [if_neg hmapped] at hholds
      exact absurd rfl hholds.2
  · rw [(StopCall.next_found (hsucc i) hfirst).1]
    exact h ⟨hfirst, hpc⟩

lemma Zero.step (hsucc : ∀ i, (answers i).Succeed) {act : StopAction} (h : t.Zero)
    (hs : step answers t act = some t') : t'.Zero := by
  cases act with
  | call =>
    rw [← Option.some.inj hs]
    intro c hc hholds
    rcases List.mem_append.mp hc with hc | hc
    · exact h c hc hholds
    · rw [List.mem_singleton.mp hc] at hholds
      exact absurd rfl hholds.1
  | step i =>
    obtain ⟨c, hc, hpc, rfl⟩ := step_step hs
    intro c' hc' hholds
    rcases List.mem_or_eq_of_mem_set hc' with hc' | rfl
    · exact h c' hc' hholds
    · exact next_zero hsucc i t.shared hpc (h c (List.mem_of_getElem? hc)) hholds

lemma found_twice {act : StopAction} (h : t.Zero) (halone : ¬ t.Alone act)
    (hs : step answers t act = some t') : ∃ i j, i ≠ j ∧ t'.Found i ∧ t'.Found j := by
  cases act with
  | call => exact absurd trivial halone
  | step i =>
    obtain ⟨c, hc, -, rfl⟩ := step_step hs
    have hlt : i < t.calls.length := (List.getElem?_eq_some_iff.mp hc).1
    rw [Alone] at halone
    push Not at halone
    obtain ⟨c₁, hc₁, hpc, hmapped, c', hc', hholds⟩ := halone
    obtain rfl : c = c₁ := Option.some.inj (hc.symm.trans hc₁)
    obtain ⟨j, hj⟩ := List.getElem?_of_mem hc'
    -- the one looks up while the other holds the session
    have hij : i ≠ j := by
      rintro rfl
      rw [hc] at hj
      exact hholds.1 (Option.some.inj hj ▸ hpc)
    have hnext : (c.next (answers i) t.shared).2 = ⟨0, .isRun⟩ := by
      simp only [StopCall.next, hpc, hmapped, if_true]
    refine ⟨i, j, hij, ⟨_, List.getElem?_set_self hlt, ?_, ?_⟩,
      ⟨c', (List.getElem?_set_ne hij).trans hj, hholds.1, h c' hc' hholds⟩⟩
    · rw [hnext]
      exact StopPc.noConfusion
    · rw [hnext]

/-- If in the end one call at most has found the session, every lookup was alone. -/
lemma meets_of_found (hsucc : ∀ i, (answers i).Succeed) {as : List StopAction} {u : StopCalls}
    (hrun : Run.run (step answers) t as = some u) (hzero : t.Zero)
    (hunique : ∀ i j, u.Found i → u.Found j → i = j) : Run.Meets (step answers) Alone t as := by
  induction as generalizing t with
  | nil => trivial
  | cons act as ih =>
    obtain ⟨t', hs, hrest⟩ := Run.run_cons.mp hrun
    have hstable : ∀ i, t'.Found i → u.Found i := fun i hi =>
      Run.reachable_invariant (I := fun t => t.Found i) (fun _ _ _ h hs => h.step hsucc hs) hi hrest
    refine Run.meets_cons ?_ hs (ih hrest (hzero.step hsucc hs))
    by_contra halone
    obtain ⟨i, j, hij, hi, hj⟩ := found_twice hzero halone hs
    exact hij (hunique i j (hstable i hi) (hstable j hj))

/-- When the SDKs succeed: in a run in which each lookup that finds the session is alone, streams
are stopped once; and if a run to the end of all calls stops them once, its lookups were alone. -/
theorem stopsOnce_iff {answers : ℕ → StopAnswers} (hsucc : ∀ i, (answers i).Succeed)
    (s₀ : PlaySession) {as : List StopAction} {t : StopCalls}
    (hrun : Run.run (step answers) (start s₀) as = some t) :
    (Run.Meets (step answers) Alone (start s₀) as →
        Run.Always (step answers) (StopsOnce s₀) (start s₀) as) ∧
      (t.Done → (t.StopsOnce s₀ ↔ Run.Meets (step answers) Alone (start s₀) as)) := by
  have hstep : ∀ t act t', Inv s₀ t → t.Alone act → step answers t act = some t' → Inv s₀ t' :=
    fun _ _ _ h halone hs => h.step hsucc halone hs
  constructor
  · exact Run.always_of_meets (fun _ h => h.stopsOnce) hstep (inv_start s₀)
  · refine fun hdone => ⟨fun honce => ?_, fun hmeets => ?_⟩
    · apply meets_of_found hsucc hrun (fun _ hc => absurd hc List.not_mem_nil)
      -- a call that found the session is done in the end, with 0
      have hreturned : ∀ i, t.Found i → t.Returned i 0 := by
        rintro i ⟨⟨ret, pc⟩, hc, -, rfl⟩
        obtain rfl : pc = .returned := hdone _ (List.mem_of_getElem? hc)
        exact hc
      exact fun i j hi hj => honce.unique i j (hreturned i hi) (hreturned j hj)
    · exact (Run.run_invariant hstep (inv_start s₀) hmeets hrun).stopsOnce

/-- A real-time stream with a connection to the media server. -/
def playing : PlaySession := { zeroed with isRun := true, lRealPlayHandle := 7, nMediaClient := 5 }

def succeeding : StopAnswers where
  stop _ := true
  lastError _ := 0
  disconnect := 0

/-- One call after the other, and two calls at the same time. -/
def inTurn : List StopAction := .call :: (List.replicate 16 (.step 0) ++ [.call, .step 1])

def atOnce : List StopAction :=
  .call :: .call :: (List.replicate 16 [.step 0, .step 1]).flatten

def stopped : StopCalls where
  shared :=
    { session := { playing with isRun := false, lRealPlayHandle := 0, nMediaClient := 0 }
      mapped := false
      useCount := 0
      stops := [(.real, 7)]
      disconnects := [5] }
  calls := [⟨0, .returned⟩, ⟨-1, .returned⟩]

/-- The second call does not find the session any more. -/
theorem stopsOnce_iff_inTurn :
    Run.Always (step fun _ => succeeding) (StopsOnce playing) (start playing) inTurn := by
  have hrun : Run.run (step fun _ => succeeding) (start playing) inTurn = some stopped := rfl
  obtain ⟨halways, hiff⟩ := stopsOnce_iff (fun _ => ⟨fun _ => rfl, rfl⟩) playing hrun
  have hstops : ∀ k, playing.handle k ≠ 0 →
      stopped.shared.stops.count (k, playing.handle k) = 1 := by
    intro k hk
    cases k with
    | record => exact absurd rfl hk
    | real => rfl
    | download => exact absurd rfl hk
  -- of the two calls only the first finds the session
  have hzero : ∀ i, stopped.Returned i 0 → i = 0 := by
    intro i hi
    rcases i with _ | _ | i
    · rfl
    · cases hi
    · cases hi
  refine halways ((hiff fun c hc => ?_).mp ⟨fun k hk => (hstops k hk).le, fun h hne => ?_,
    fun i ret hr => ?_, fun i j hi hj => ?_, fun _ _ => ⟨hstops, 0, rfl⟩⟩)
  · rcases List.mem_cons.mp hc with rfl | hc
    · rfl
    · rw [List.mem_singleton.mp hc]
  · exact List.count_le_length
  · rcases i with _ | _ | i
    · exact Or.inl (congrArg StopCall.ret (Option.some.inj hr)).symm
    · exact Or.inr (congrArg StopCall.ret (Option.some.inj hr)).symm
    · cases hr
  · rw [hzero i hi, hzero j hj]

/-- Two calls at the same time: both stop the stream, both close the connection, and both return
`0`. -/
theorem not_stopsOnce :
    ¬ Run.Always (step fun _ => succeeding) (StopsOnce playing) (start playing) atOnce ∧
      ∃ t, Run.run (step fun _ => succeeding) (start playing) atOnce = some t ∧
        t.shared.stops = [(.real, 7), (.real, 7)] ∧ t.shared.disconnects = [5, 5] ∧
          t.Returned 0 0 ∧ t.Returned 1 0 := by
  refine ⟨fun h => ?_, _, rfl, rfl, rfl, rfl, rfl⟩
  exact absurd ((h atOnce List.prefix_rfl _ rfl).unique 0 1 rfl rfl) (by decide)

end StopCalls

end DHGateway
