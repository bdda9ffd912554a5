import DHGateway.Core.Run
import DHGateway.Session.Framing
import DHGateway.Session.Ownership

/-!
# Lost media connections

Two parts of the gateway notice that a media connection is lost: `sendMS`, where a write on it
fails, and `onclose`, which the network library calls. The first forgets the handle by which the
second finds the session, and where the second finds one, its loop over the map fails.
-/

namespace DHGateway

namespace PlaySession

instance (env : SendEnv) : Decidable env.Failed := by
  unfold SendEnv.Failed; infer_instance

/-- A call of `sendMS` keeps the handle of the connection unless a write fails. -/
lemma sendMS_nMediaClient (s : PlaySession) (writeResult : ℕ → ℤ) (p : List UInt8) :
    (s.sendMS (SendEnv.start writeResult) p).2.1.nMediaClient =
      if (s.sendMS (SendEnv.start writeResult) p).2.2.Failed then 0 else s.nMediaClient := by
  have hstart : ¬ (SendEnv.start writeResult).Failed := by simp [SendEnv.Failed, SendEnv.start]
  cases hrun : s.isRun with
  | false =>
    rw [sendMS_stopped _ p hrun, if_neg hstart]
  | true =>
    rcases sendMS_cases s (SendEnv.start writeResult) p hrun with
      ⟨ret, hret, -, hmedia, henv⟩ | ⟨-, heq⟩ | ⟨-, heq⟩
    · -- the write that fails clears the member
      rw [hmedia, henv, if_pos ((SendEnv.failed_write _ _ _ _).mpr (Or.inr hret))]
    · rw [heq, if_neg]
      · rfl
      · rw [storeFrame_failed, SendEnv.failed_write]
        exact not_or.mpr ⟨hstart, fun h => h rfl⟩
    · rw [heq, if_neg]
      · rfl
      · rw [storeFrame_failed]
        exact hstart

lemma setMSAddr_nMediaClient (s : PlaySession) (media : MediaAnswers) (ip : String)
    (port linkType : ℤ) :
    (s.setMSAddr media ip port linkType).2.nMediaClient =
      if media.connect.1 = 0 then media.connect.2 else s.nMediaClient := by
  simp only [setMSAddr, connetMS, creatPacket]
  split_ifs <;> rfl

lemma nMediaClient_disconnetMS (session : PlaySession) (val : ℤ) :
    (session.disconnetMS val).nMediaClient = if val = 0 then 0 else session.nMediaClient := by
  rw [disconnetMS]
  split_ifs with h0 hval
  · exact h0
  · rfl
  · rfl
  · rfl

lemma nMediaClient_clearHandle (session : PlaySession) (k : StreamKind) :
    (session.clearHandle k).nMediaClient = session.nMediaClient := by
  cases k <;> rfl

end PlaySession

open PlaySession

lemma StartCall.nMediaClient_played (c : StartCall) (session : PlaySession) (h : LLONG) :
    (c.played session h).nMediaClient = session.nMediaClient := by
  cases c with
  | real => rfl
  | record =>
    rw [StartCall.played]
    split_ifs <;> rfl

/-- A step of the stream functions, or a packet of a session that is alive. The `sendMS` of a packet
is one step: a stop between its test of `_is_run` and its write is taken as coming after it. -/
inductive ConnectionAction where
  | sys (a : Action)
  | sendMS (p : ℕ) (data : List UInt8) (writeResult : ℕ → ℤ)

namespace Sys

def stepMS (s : Sys) : ConnectionAction → Option Sys
  | .sys a => s.step a
  | .sendMS p data writeResult => do
    let session ← s.heap[p]?
    if s.fault = none ∧ p ∉ s.freed then
      some (s.store p (session.sendMS (.start writeResult) data).2.1)
    else none

variable {s s' : Sys} {p q : ℕ}

lemma stepMS_sendMS {data : List UInt8} {writeResult : ℕ → ℤ}
    (h : s.stepMS (.sendMS p data writeResult) = some s') :
    ∃ session, s.heap[p]? = some session ∧ s.fault = none ∧ p ∉ s.freed ∧
      s' = s.store p (session.sendMS (.start writeResult) data).2.1 := by
  obtain ⟨session, hp, h⟩ := Option.bind_eq_some_iff.mp h
  split_ifs at h with hcond
  exact ⟨session, hp, hcond.1, hcond.2, (Option.some.inj h).symm⟩

lemma fault_stepMS {a : ConnectionAction} (h : s.stepMS a = some s')
    (hclose : ∀ clihandle, a = .sys (.onclose clihandle) → ¬ s.HasClihandle clihandle) :
    s'.fault = none := by
  cases a with
  | sys a => exact fault_of_step h fun clihandle ha => hclose clihandle (ha ▸ rfl)
  | sendMS p data writeResult =>
    obtain ⟨session, _, hfault, _, rfl⟩ := stepMS_sendMS h
    exact hfault

lemma Pointers.stepMS {a : ConnectionAction} (h : s.Pointers) (hs : s.stepMS a = some s') :
    s'.Pointers := by
  cases a with
  | sys a => exact h.step hs
  | sendMS p data writeResult =>
    obtain ⟨session, _, _, _, rfl⟩ := stepMS_sendMS hs
    refine ⟨?_, ?_, ?_, h.unmapped, h.alone⟩
    · rw [store_length]
      exact h.held
    · rw [store_length]
      exact h.mapped
    · rw [store_length]
      exact h.freed

/-! ### The handle in a session -/

lemma getClihandle_of_getElem? {session : PlaySession} (h : s.heap[p]? = some session) :
    s.getClihandle p = session.nMediaClient := by
  rw [getClihandle, h]

lemma getClihandle_store {session : PlaySession} (h : s.heap[p]? = some session)
    (session' : PlaySession) (q : ℕ) :
    (s.store p session').getClihandle q =
      if q = p then session'.nMediaClient else s.getClihandle q := by
  have hlt : p < s.heap.length := (List.getElem?_eq_some_iff.mp h).1
  split_ifs with hq
  · rw [hq]
    exact getClihandle_of_getElem? (List.getElem?_set_self hlt)
  · rw [getClihandle, store, List.getElem?_set_ne (Ne.symm hq), getClihandle]

lemma getClihandle_store_same {session session' : PlaySession} (h : s.heap[p]? = some session)
    (hclient : session'.nMediaClient = session.nMediaClient) (q : ℕ) :
    (s.store p session').getClihandle q = s.getClihandle q := by
  rw [getClihandle_store h]
  split_ifs with hq
  · rw [hclient, hq, getClihandle_of_getElem? h]
  · rfl

lemma getClihandle_alloc (c : StartCall) (mem : PlaySession) (q : ℕ) :
    getClihandle { s with heap := s.heap ++ [c.newSession mem] } q = s.getClihandle q := by
  have hnew : (c.newSession mem).nMediaClient = 0 := by
    cases c <;> rfl
  rw [getClihandle, getClihandle]
  rcases lt_trichotomy q s.heap.length with hlt | rfl | hgt
  · rw [List.getElem?_append_left hlt]
  · rw [List.getElem?_concat_length, List.getElem?_eq_none (le_refl _)]
    exact hnew
  · rw [List.getElem?_eq_none (by simpa using Nat.succ_le_of_lt hgt), List.getElem?_eq_none hgt.le]

/-- Only the connect and the last assignment of `disconnetMS` change the handle of a session. -/
lemma getClihandle_advance {a : Answers} {pc pc' : Pc} (h : s.advance a pc = some (s', pc'))
    (hconnect : ∀ c p, pc ≠ .connect c p) (hclear : ∀ key p ret, pc ≠ .clearMedia key p ret)
    (q : ℕ) : s'.getClihandle q = s.getClihandle q := by
  cases pc with
  | lookup c =>
    simp only [advance] at h
    split at h <;> simp only [Option.some.injEq, Prod.mk.injEq] at h <;> obtain ⟨rfl, rfl⟩ := h
    · rfl
    · -- a new session has no handle yet
      exact getClihandle_alloc c a.mem q
  | connect c p => exact absurd rfl (hconnect c p)
  | clearMedia key p ret => exact absurd rfl (hclear key p ret)
  | play c p =>
    obtain ⟨session, hp, h⟩ := Option.bind_eq_some_iff.mp h
    dsimp only at h
    split_ifs at h <;> simp only [Option.some.injEq, Prod.mk.injEq] at h <;> obtain ⟨rfl, _⟩ := h
    · exact getClihandle_store_same hp (c.nMediaClient_played session _) q
    · exact getClihandle_store_same hp (c.nMediaClient_played session _) q
  | stopSession key p =>
    obtain ⟨session, hp, h⟩ := Option.bind_eq_some_iff.mp h
    simp only [Option.some.injEq, Prod.mk.injEq] at h
    obtain ⟨rfl, _⟩ := h
    have hclient : ({ session with isRun := false } : PlaySession).nMediaClient =
        session.nMediaClient := rfl
    exact getClihandle_store_same hp hclient q
  | stopClear key p k ret =>
    obtain ⟨session, hp, h⟩ := Option.bind_eq_some_iff.mp h
    simp only [Option.some.injEq, Prod.mk.injEq] at h
    obtain ⟨rfl, _⟩ := h
    exact getClihandle_store_same hp (nMediaClient_clearHandle session k) q
  | stopLookup key =>
    simp only [advance] at h
    split at h <;> simp only [Option.some.injEq, Prod.mk.injEq] at h <;> obtain ⟨rfl, _⟩ := h <;>
      rfl
  | stopOpened | stopTest | stopArgument | testMedia | mediaArgument =>
    obtain ⟨session, _, h⟩ := Option.bind_eq_some_iff.mp h
    simp only [Option.some.injEq, Prod.mk.injEq] at h
    rw [← h.1]
  | done ret => exact absurd h (by simp [advance])
  | _ =>
    simp only [advance, Option.some.injEq, Prod.mk.injEq] at h
    obtain ⟨rfl, _⟩ := h
    rfl

def connected (s : Sys) : ConnectionAction → Option (ℕ × NETHANDLE)
  | .sys (.step i a) =>
    match s.threads[i]? with
    | some (.connect _ p) => if a.media.connect.1 = 0 then some (p, a.media.connect.2) else none
    | _ => none
  | _ => none

/-- A session has no handle, or that of the connection that is made for it, or the one it had. -/
lemma getClihandle_stepMS {a : ConnectionAction} (h : s.stepMS a = some s') (q : ℕ) :
    s'.getClihandle q = 0 ∨ s.connected a = some (q, s'.getClihandle q) ∨
      s'.getClihandle q = s.getClihandle q ∧ ∀ x, s.connected a ≠ some (q, x) := by
  cases a with
  | sendMS p data writeResult =>
    obtain ⟨session, hp, _, _, rfl⟩ := stepMS_sendMS h
    rw [getClihandle_store hp]
    split_ifs with hq
    · rw [sendMS_nMediaClient, hq, getClihandle_of_getElem? hp]
      split_ifs
      · exact Or.inl rfl
      · exact Or.inr (Or.inr ⟨rfl, by simp [connected]⟩)
    · exact Or.inr (Or.inr ⟨rfl, by simp [connected]⟩)
  | sys a =>
    replace h := (step_eq_some.mp h).2
    cases a with
    | call c =>
      rw [← Option.some.inj h]
      exact Or.inr (Or.inr ⟨rfl, by simp [connected]⟩)
    | onclose clihandle =>
      refine Or.inr (Or.inr ⟨?_, by simp [connected]⟩)
      rcases next_onclose h with ⟨_, rfl⟩ | ⟨_, rfl⟩ <;> rfl
    -- the destructor disconnects, and its result decides what is left in the member
    | destroy p val =>
      obtain ⟨session, hp, _, _, rfl⟩ := next_destroy h
      have hstore := getClihandle_store hp (session.disconnetMS val) q
      have hget : getClihandle { s.store p (session.disconnetMS val) with
          freed := p :: s.freed } q = (s.store p (session.disconnetMS val)).getClihandle q := rfl
      rw [hget, hstore]
      split_ifs with hq
      · rw [nMediaClient_disconnetMS, hq, getClihandle_of_getElem? hp]
        split_ifs
        · exact Or.inl rfl
        · exact Or.inr (Or.inr ⟨rfl, by simp [connected]⟩)
      · exact Or.inr (Or.inr ⟨rfl, by simp [connected]⟩)
    | step i a =>
      obtain ⟨pc, t, pc', hi, hadv, rfl⟩ := next_step h
      have hget : getClihandle { t with threads := s.threads.set i pc' } q =
          t.getClihandle q := rfl
      rw [hget]
      cases pc with
      -- `setMSAddr` is where a session gets its handle
      | connect c p =>
        obtain ⟨session, hp, hadv⟩ := Option.bind_eq_some_iff.mp hadv
        simp only [Option.some.injEq, Prod.mk.injEq] at hadv
        obtain ⟨rfl, _⟩ := hadv
        rw [getClihandle_store hp, setMSAddr_nMediaClient]
        simp only [connected, hi]
        by_cases hq : q = p
        · rw [if_pos hq, hq, getClihandle_of_getElem? hp]
          split_ifs
          · exact Or.inr (Or.inl rfl)
          · exact Or.inr (Or.inr ⟨rfl, by simp⟩)
        · rw [if_neg hq]
          refine Or.inr (Or.inr ⟨rfl, fun x heq => ?_⟩)
          split_ifs at heq
          exact hq (Prod.mk.inj (Option.some.inj heq)).1.symm
      | clearMedia key p ret =>
        obtain ⟨session, hp, hadv⟩ := Option.bind_eq_some_iff.mp hadv
        simp only [Option.some.injEq, Prod.mk.injEq] at hadv
        obtain ⟨rfl, _⟩ := hadv
        rw [getClihandle_store hp]
        split_ifs
        · exact Or.inl rfl
        · exact Or.inr (Or.inr ⟨rfl, by simp [connected, hi]⟩)
      | _ =>
        refine Or.inr (Or.inr ⟨?_, by simp [connected, hi]⟩)
        exact getClihandle_advance hadv (by simp) (by simp) q

/-- A session comes into the map by the insert of a start that finds its key free. -/
lemma sessionMap_stepMS {a : ConnectionAction} (h : s.stepMS a = some s') {key : String}
    (hp : s'.sessionMap.getPlaySession key = some p) :
    s.sessionMap.getPlaySession key = some p ∨
      ∃ i b c, a = .sys (.step i b) ∧ s.threads[i]? = some (.insert c p) ∧
        c.streamId ∉ s.sessionMap := by
  cases a with
  | sendMS p data writeResult =>
    obtain ⟨session, _, _, _, rfl⟩ := stepMS_sendMS h
    exact Or.inl hp
  | sys a =>
    replace h := (step_eq_some.mp h).2
    cases a with
    | call c =>
      rw [← Option.some.inj h] at hp
      exact Or.inl hp
    -- a close that goes on leaves the map, and one that matches leaves the run
    | onclose clihandle =>
      rcases next_onclose h with ⟨_, rfl⟩ | ⟨_, rfl⟩ <;> exact Or.inl hp
    | destroy p val =>
      obtain ⟨session, _, _, _, rfl⟩ := next_destroy h
      exact Or.inl hp
    | step i b =>
      obtain ⟨pc, t, pc', hi, hadv, rfl⟩ := next_step h
      cases advance_move hadv with
      | goOn hs => exact Or.inl (hs.sessionMap ▸ hp)
      | stopOn hs => exact Or.inl (hs.sessionMap ▸ hp)
      | @inserted c p' ret =>
        by_cases hmem : c.streamId ∈ s.sessionMap
        · rw [SessionMap.insertPlaySession_of_mem p' hmem] at hp
          exact Or.inl hp
        · by_cases hkey : key = c.streamId
          · rw [hkey, SessionMap.getPlaySession_insert_self _ _ hmem] at hp
            obtain rfl := Option.some.inj hp
            exact Or.inr ⟨i, b, c, rfl, hi, hmem⟩
          · rw [SessionMap.getPlaySession_insert_ne _ _ hkey] at hp
            exact Or.inl hp
      | del => exact Or.inl (SessionMap.getPlaySession_of_del hp)
      | _ => exact Or.inl hp

end Sys

/-! ### Closed connections -/

/-- The sessions, the handle of the connection that each was made with, and those whose connection
was reported as closed. -/
structure MediaClose where
  sys : Sys
  media : ℕ → NETHANDLE
  closed : List ℕ

namespace MediaClose

def start : MediaClose :=
  ⟨.start, fun _ => 0, []⟩

/-- The sessions whose connection an event reports as closed. The handle `0` is no connection. -/
def reported (s : MediaClose) : ConnectionAction → List ℕ
  | .sys (.onclose clihandle) =>
    if clihandle = 0 then []
    else (List.range s.sys.heap.length).filter fun p => s.media p = clihandle
  | _ => []

def made (media : ℕ → NETHANDLE) : Option (ℕ × NETHANDLE) → ℕ → NETHANDLE
  | some (p, clihandle) => Function.update media p clihandle
  | none => media

def step (s : MediaClose) (a : ConnectionAction) : Option MediaClose :=
  (s.sys.stepMS a).map fun sys =>
    ⟨sys, made s.media (s.sys.connected a), s.reported a ++ s.closed⟩

/-- No session whose connection is closed is in the map, so that a start which is answered as
already playing has found one whose connection is not. -/
structure Freed (s : MediaClose) : Prop where
  handled : s.sys.fault = none
  gone : ∀ key p, s.sys.sessionMap.getPlaySession key = some p → p ∉ s.closed
  restarts : ∀ c a sys, s.sys.advance a (.lookup c) = some (sys, .done 0) →
    ∃ p, s.sys.sessionMap.getPlaySession c.streamId = some p ∧ p ∉ s.closed

/-- A close concerns no session of the map, by its handle or by the connection that it was made
with, and no session whose connection is closed is put into the map. -/
def NoneClosed (s : MediaClose) : ConnectionAction → Prop
  | .sys (.onclose clihandle) =>
    ∀ key p, s.sys.sessionMap.getPlaySession key = some p →
      s.sys.getClihandle p ≠ clihandle ∧ s.media p ≠ clihandle
  | .sys (.step i _) =>
    ∀ c p, s.sys.threads[i]? = some (.insert c p) → c.streamId ∈ s.sys.sessionMap ∨ p ∉ s.closed
  | _ => True

/-- What is to hold of an insert, if the thread is before one. -/
def inserts (P : StartCall → ℕ → Bool) : Pc → Bool
  | .insert c p => P c p
  | _ => true

lemma forall_getPlaySession {m : SessionMap ℕ} {P : ℕ → Prop} :
    (∀ key p, m.getPlaySession key = some p → P p) ↔ ∀ e ∈ m.entries, P e.2 :=
  ⟨fun h e he => h e.1 e.2 (AList.mem_lookup_iff.mpr he),
    fun h key p hp => h ⟨key, p⟩ (AList.mem_lookup_iff.mp hp)⟩

instance (s : MediaClose) : DecidablePred s.NoneClosed
  | .sys (.onclose _) => decidable_of_iff _ forall_getPlaySession.symm
  | .sys (.step i _) =>
    decidable_of_iff (∀ pc ∈ s.sys.threads[i]?, inserts (fun c p =>
      decide (c.streamId ∈ s.sys.sessionMap ∨ p ∉ s.closed)) pc) (by
        constructor
        · exact fun h c p hi => of_decide_eq_true (h _ hi)
        · intro h pc hi
          cases pc with
          | insert c p => exact decide_eq_true (h c p hi)
          | _ => rfl)
  | .sys (.call _) | .sys (.destroy _ _) | .sendMS _ _ _ => isTrue trivial

/-- A session has the handle that it was made with, or none. -/
structure Linked (s : MediaClose) : Prop where
  pointers : s.sys.Pointers
  handle : ∀ p, s.sys.getClihandle p = 0 ∨ s.sys.getClihandle p = s.media p

lemma linked_start : Linked start :=
  ⟨Sys.start_invariant.1, fun _ => Or.inl rfl⟩

lemma Linked.step {s s' : MediaClose} {a : ConnectionAction} (h : Linked s)
    (hs : s.step a = some s') : Linked s' := by
  obtain ⟨sys, hsys, rfl⟩ := Option.map_eq_some_iff.mp hs
  refine ⟨h.pointers.stepMS hsys, fun p => ?_⟩
  rcases Sys.getClihandle_stepMS hsys p with h0 | hnew | ⟨hsame, hother⟩
  · exact Or.inl h0
  · -- the step connected the session, and the handle is the one it got
    refine Or.inr ?_
    simp only [hnew, made, Function.update_self]
  · have hmedia : made s.media (s.sys.connected a) p = s.media p := by
      cases hc : s.sys.connected a with
      | none => rfl
      | some made =>
        obtain ⟨q, x⟩ := made
        refine Function.update_of_ne ?_ _ _
        rintro rfl
        exact hother x hc
    simp only [hsame, hmedia]
    exact h.handle p

lemma Freed.of_gone {s : MediaClose} (hfault : s.sys.fault = none)
    (h : ∀ key p, s.sys.sessionMap.getPlaySession key = some p → p ∉ s.closed) : Freed s where
  handled := hfault
  gone := h
  restarts := by
    intro c a sys hadv
    cases hp : s.sys.sessionMap.getPlaySession c.streamId with
    | some p => exact ⟨p, rfl, h c.streamId p hp⟩
    | none =>
      -- a new session is allocated, and the start goes on
      simp only [Sys.advance, hp, Option.some.injEq, Prod.mk.injEq] at hadv
      obtain ⟨_, hpc⟩ := hadv
      split_ifs at hpc
      cases c <;> simp [StartCall.begin] at hpc

lemma Freed.step {s s' : MediaClose} {a : ConnectionAction} (h : Freed s) (hc : NoneClosed s a)
    (hs : s.step a = some s') : Freed s' := by
  obtain ⟨sys, hsys, rfl⟩ := Option.map_eq_some_iff.mp hs
  refine .of_gone (Sys.fault_stepMS hsys ?_) fun key p hp => ?_
  · rintro clihandle rfl ⟨key, p, hp, hh⟩
    exact (hc key p hp).1 hh
  · rw [List.mem_append, not_or]
    -- the entry was there before, or the step inserts it
    rcases Sys.sessionMap_stepMS hsys hp with hold | ⟨i, b, c, rfl, hi, hfree⟩
    · refine ⟨fun hmem => ?_, h.gone key p hold⟩
      cases a with
      | sendMS p data writeResult => simp [reported] at hmem
      | sys a =>
        cases a with
        | onclose clihandle =>
          rw [reported] at hmem
          split_ifs at hmem
          · simp at hmem
          · exact (hc key p hold).2 (of_decide_eq_true (List.mem_filter.mp hmem).2)
        | _ => simp [reported] at hmem
    · exact ⟨by simp [reported], (hc c p hi).resolve_left hfree⟩

/-- A close of a session in the map fails, or leaves the session there. -/
lemma Linked.not_freed_of_onclose {s s' : MediaClose} {clihandle : NETHANDLE} (h : Linked s)
    (hc : ¬ NoneClosed s (.sys (.onclose clihandle)))
    (hs : s.step (.sys (.onclose clihandle)) = some s') : ¬ Freed s' := by
  obtain ⟨sys, hsys, rfl⟩ := Option.map_eq_some_iff.mp hs
  rintro ⟨hhandled, hgone, _⟩
  rcases Sys.next_onclose (Sys.step_eq_some.mp hsys).2 with ⟨hnot, rfl⟩ | ⟨_, rfl⟩
  · refine hc fun key p hp => ?_
    have hne : s.sys.getClihandle p ≠ clihandle := fun heq => hnot ⟨key, p, hp, heq⟩
    refine ⟨hne, fun hmedia => hgone key p hp (List.mem_append_left _ ?_)⟩
    -- an unconnected session has the handle 0, with which a close of 0 would match
    have hconnected : clihandle ≠ 0 := by
      rintro rfl
      rcases h.handle p with h0 | h0
      · exact hne h0
      · exact hne (h0.trans hmedia)
    rw [reported, if_neg hconnected, List.mem_filter]
    exact ⟨List.mem_range.mpr (h.pointers.mapped key p hp).1, decide_eq_true hmedia⟩
  · exact absurd hhandled (by simp)

/-- A step that does not meet the condition fails, or a session of the map is closed. -/
lemma Linked.not_freed {s s' : MediaClose} {a : ConnectionAction} (h : Linked s)
    (hc : ¬ NoneClosed s a) (hs : s.step a = some s') : ¬ Freed s' := by
  cases a with
  | sendMS p data writeResult => exact absurd trivial hc
  | sys a =>
    cases a with
    | call c => exact absurd trivial hc
    | destroy p val => exact absurd trivial hc
    | onclose clihandle => exact h.not_freed_of_onclose hc hs
    -- the session that is inserted has lost its connection before
    | step i b =>
      obtain ⟨sys, hsys, rfl⟩ := Option.map_eq_some_iff.mp hs
      obtain ⟨pc, t, pc', hi, hadv, rfl⟩ := Sys.next_step (Sys.step_eq_some.mp hsys).2
      simp only [NoneClosed, not_forall, not_or, not_not] at hc
      obtain ⟨c, p, hinsert, hfree, hclosed⟩ := hc
      obtain rfl := Option.some.inj (hi.symm.trans hinsert)
      simp only [Sys.advance, Option.some.injEq, Prod.mk.injEq] at hadv
      obtain ⟨rfl, _⟩ := hadv
      intro hfreed
      refine hfreed.gone c.streamId p ?_ (List.mem_append_right _ hclosed)
      exact SessionMap.getPlaySession_insert_self _ _ hfree

/-- In a run every close is handled, and leaves no session of its connection in the map then or
later, exactly if no session of the map has the handle that is closed or was made with it, and no
start puts a session into the map whose connection is closed. -/
theorem close_frees_iff {as : List ConnectionAction} {t : MediaClose}
    (hrun : Run.run step start as = some t) :
    Run.Always step Freed start as ↔ Run.Meets step NoneClosed start as := by
  refine Run.always_iff_meets (I := fun s => Linked s ∧ Freed s) (fun s h => h.2) ?_ ?_
    ⟨linked_start, .of_gone rfl ?_⟩ hrun
  · rintro s a s' ⟨hl, hf⟩ hc hs
    exact ⟨hl.step hs, hf.step hc hs⟩
  · rintro s a s' ⟨hl, _⟩ hc hs
    exact hl.not_freed hc hs
  · exact fun key p hp => absurd (SessionMap.mem_of_getPlaySession hp) (AList.notMem_empty key)

/-- A play of `s1`, on connection `7`. -/
def playS1 : List ConnectionAction :=
  .sys (.call startS1) :: List.replicate 5 (.sys (.step 0 (.ok 5)))

/-- A play of which a packet is sent, and which is stopped before its connection is closed. -/
def playStopClose : List ConnectionAction :=
  playS1 ++ .sendMS 0 [1] (fun _ => 0) :: .sys (.call (.stop "s1")) ::
    List.replicate 16 (.sys (.step 1 (.ok 0))) ++ [.sys (.onclose 7)]

theorem close_frees_one_stream : Run.Always step Freed start playStopClose := by
  have hmeets : Run.Meets step NoneClosed start playStopClose := by decide
  exact (close_frees_iff rfl).mpr hmeets

/-- The write of the first packet fails when the second one comes, and then the connection is
closed. -/
theorem close_leaves_stream :
    ¬ Run.Always step Freed start
      (playS1 ++ [.sendMS 0 [1] (fun _ => 1), .sendMS 0 [2] (fun _ => 1), .sys (.onclose 7)]) := by
  intro h
  exact (h _ List.prefix_rfl _ rfl).gone "s1" 0 rfl (by decide)

end MediaClose

end DHGateway
