import DHGateway.Core.Handles
import DHGateway.Session.MediaClose

/-!
# Connections to the media server

Each session connects to the media server at most once, and is disconnected by `stopSession` or by
its destructor. Nothing has the handle of a connection any more when a write on it has failed, after
which `sendMS` forgets the handle, or when a destructor could not disconnect. A connection is
disconnected twice when two stops of its session have both read the handle.
-/

namespace DHGateway

open PlaySession

/-- What a thread does with the connection of a session next. -/
inductive MediaPlace where
  | connecting (p : ℕ)
  | disconnecting (p : ℕ) (h : NETHANDLE)
  | clearing (p : ℕ)
  | elsewhere
  deriving DecidableEq

def Pc.mediaPlace : Pc → MediaPlace
  | .connect _ p => .connecting p
  | .disconnect _ p h _ => .disconnecting p h
  | .clearMedia _ p _ => .clearing p
  | _ => .elsewhere

namespace Sys

def client (s : Sys) (p : ℕ) : NETHANDLE :=
  if p ∈ s.freed then 0 else s.getClihandle p

/-- A stop of the session at `p` has disconnected it and not cleared its handle yet. -/
def Clearing (s : Sys) (p : ℕ) : Prop :=
  ∃ pc ∈ s.threads, pc.mediaPlace = .clearing p

/-- There is no connection of the session at `p` that is to be disconnected. -/
def Disconnected (s : Sys) (p : ℕ) : Prop :=
  s.client p = 0 ∨ s.Clearing p

/-- The packet makes a write that fails. -/
def WriteFails (s : Sys) (p : ℕ) (data : List UInt8) (writeResult : ℕ → ℤ) : Prop :=
  ∃ session ∈ s.heap[p]?, (session.sendMS (.start writeResult) data).2.2.Failed

instance (s : Sys) (p : ℕ) : Decidable (s.Disconnected p) := by
  unfold Disconnected Clearing; infer_instance

instance (s : Sys) (p : ℕ) (data : List UInt8) (writeResult : ℕ → ℤ) :
    Decidable (s.WriteFails p data writeResult) := by
  unfold WriteFails; infer_instance

end Sys

/-- The sessions, with the connections that were made for them in their order; `clients` are the
handles that `XHNetSDK_Connect` has stored. -/
structure MediaConnections where
  sys : Sys
  handles : Handles ℕ
  clients : List NETHANDLE

namespace MediaConnections

open Sys

def start : MediaConnections :=
  ⟨.start, ⟨0, fun _ => 0, fun _ => none, fun _ => none, false⟩, []⟩

/-- What a step does to the connections, with the results of `XHNetSDK_Connect`,
`XHNetSDK_Disconnect` and `XHNetSDK_Write`. A session keeps the number of its connection also when
this was disconnected, and loses it when nothing has the handle of an open connection. -/
def act (s : Sys) : ConnectionAction → Handles.Act ℕ
  | .sys (.step i a) =>
    match s.threads[i]? with
    | some (.connect _ p) =>
      if a.media.connect.1 = 0 ∧ a.media.connect.2 ≠ 0 then .create p true else .skip
    | some (.disconnect _ p h _) =>
      if h ≠ 0 ∧ a.stop.disconnect = 0 then .destroy p false else .skip
    | _ => .skip
  | .sys (.destroy p val) =>
    -- nothing has the handle afterwards
    if s.getClihandle p = 0 then .skip
    else if val = 0 then .destroy p true else .create p false
  | .sys (.call _) | .sys (.onclose _) => .skip
  | .sendMS p data writeResult =>
    if s.WriteFails p data writeResult ∧ ¬ s.Disconnected p then .create p false else .skip

def opened (s : Sys) (a : ConnectionAction) : List NETHANDLE :=
  match s.connected a with
  | some (_, h) => if h ≠ 0 then [h] else []
  | none => []

def step (s : MediaConnections) (a : ConnectionAction) : Option MediaConnections :=
  (s.sys.stepMS a).map fun sys =>
    ⟨sys, s.handles.step (act s.sys a), s.clients ++ opened s.sys a⟩

/-- Every connection was disconnected or is that of a session that is alive and has its handle, and
none was disconnected twice. -/
structure Kept (s : MediaConnections) : Prop where
  handled : s.sys.fault = none
  kept : s.handles.Kept
  client : ∀ p c, s.handles.inUse p = some c → s.handles.destroyed c = 0 →
    p ∉ s.sys.freed ∧ s.clients[c]? = some (s.sys.getClihandle p)

/-- No close finds a session in the map, no write fails on a connection that is not disconnected,
no destructor fails to disconnect, and no stop disconnects what another one has disconnected. -/
def Keeps (s : MediaConnections) : ConnectionAction → Prop
  | .sys (.onclose clihandle) => ¬ s.sys.HasClihandle clihandle
  | .sys (.step i a) => ∀ key p h ret, s.sys.threads[i]? = some (.disconnect key p h ret) →
    h ≠ 0 → a.stop.disconnect = 0 → ¬ s.sys.Disconnected p
  | .sys (.destroy p val) => s.sys.getClihandle p = 0 ∨ val = 0
  | .sys (.call _) => True
  | .sendMS p data writeResult => s.sys.WriteFails p data writeResult → s.sys.Disconnected p

/-- What is to hold of a disconnect, if the thread is before one. -/
def disconnects (P : ℕ → NETHANDLE → Bool) : Pc → Bool
  | .disconnect _ p h _ => P p h
  | _ => true

instance (s : MediaConnections) : DecidablePred s.Keeps
  | .sys (.onclose _) => inferInstanceAs (Decidable (¬ _))
  | .sys (.step i a) =>
    decidable_of_iff (∀ pc ∈ s.sys.threads[i]?, disconnects (fun p h =>
      decide (h ≠ 0 → a.stop.disconnect = 0 → ¬ s.sys.Disconnected p)) pc) (by
        constructor
        · exact fun hall key p h ret hi => of_decide_eq_true (hall _ hi)
        · intro hall pc hi
          cases pc with
          | disconnect key p h ret => exact decide_eq_true (hall key p h ret hi)
          | _ => rfl)
  | .sys (.destroy _ _) => inferInstanceAs (Decidable (_ ∨ _))
  | .sys (.call _) => isTrue trivial
  | .sendMS _ _ _ => inferInstanceAs (Decidable (_ → _))

end MediaConnections

/-! ### What a step does to the connections -/

namespace Sys

variable {s s' : Sys} {p q : ℕ}

lemma client_eq (h : p ∉ s.freed) : s.client p = s.getClihandle p := if_neg h

lemma client_same (hfreed : s'.freed = s.freed)
    (h : ∀ q, s'.getClihandle q = s.getClihandle q) (q : ℕ) : s'.client q = s.client q := by
  rw [client, client, hfreed, h]

lemma client_store {session : PlaySession} (h : s.heap[p]? = some session) (hp : p ∉ s.freed)
    (session' : PlaySession) (q : ℕ) :
    (s.store p session').client q = if q = p then session'.nMediaClient else s.client q := by
  have hfreed : (s.store p session').freed = s.freed := rfl
  rw [client, client, hfreed, getClihandle_store h]
  by_cases hq : q = p
  · rw [if_pos hq, if_pos hq, hq, if_neg hp]
  · rw [if_neg hq, if_neg hq]

/-- A session that is destroyed has no connection any more, and no other session's changes. -/
lemma client_destroy {session : PlaySession} (h : s.heap[p]? = some session)
    (session' : PlaySession) (q : ℕ) :
    client { s.store p session' with freed := p :: s.freed } q =
      if q = p then 0 else s.client q := by
  by_cases hq : q = p
  · rw [if_pos hq, hq]
    exact if_pos (List.mem_cons_self ..)
  · have hget : (s.store p session').getClihandle q = s.getClihandle q := by
      rw [getClihandle_store h, if_neg hq]
    rw [if_neg hq, client, client, ← hget]
    simp only [List.mem_cons, hq, false_or]
    rfl

lemma freed_of_advance {a : Answers} {pc pc' : Pc} (h : s.advance a pc = some (s', pc')) :
    s'.freed = s.freed := by
  cases advance_move h with
  | goOn hs _ _ _ => exact hs.freed
  | stopOn hs _ _ _ => exact hs.freed
  | _ => rfl

lemma mediaPlace_begin (c : StartCall) (p : ℕ) : (c.begin p).mediaPlace = .elsewhere := by
  cases c <;> rfl

lemma mediaPlace_started (c : StartCall) (p : ℕ) (ret : ℤ) :
    (c.started p ret).mediaPlace = .elsewhere := by
  rw [StartCall.started]
  split_ifs <;> rfl

lemma mediaPlace_openedNext (key : String) (p : ℕ) (k : StreamKind) :
    (Pc.openedNext key p k).mediaPlace = .elsewhere := by
  cases k <;> rfl

lemma mediaPlace_stopNext (key : String) (p : ℕ) (ret : ℤ) (k : StreamKind) :
    (Pc.stopNext key p ret k).mediaPlace = .elsewhere := by
  cases k <;> rfl

/-- No step deallocates a session: the pointers stay what they are. -/
lemma length_stepMS {a : ConnectionAction} (h : s.stepMS a = some s') :
    s.heap.length ≤ s'.heap.length := by
  cases a with
  | sendMS p data writeResult =>
    obtain ⟨session, _, _, _, rfl⟩ := stepMS_sendMS h
    exact (store_length ..).ge
  | sys a =>
    replace h := (step_eq_some.mp h).2
    cases a with
    | call c => rw [← Option.some.inj h]
    | onclose clihandle => rcases next_onclose h with ⟨_, rfl⟩ | ⟨_, rfl⟩ <;> rfl
    | destroy p val =>
      obtain ⟨session, _, _, _, rfl⟩ := next_destroy h
      exact (store_length ..).ge
    | step i b =>
      obtain ⟨pc, t, pc', _, hadv, rfl⟩ := next_step h
      cases advance_move hadv with
      | goOn hs => exact hs.length.ge
      | stopOn hs => exact hs.length.ge
      | alloc => simp
      | unplayed => exact (store_length ..).ge
      | played => exact (store_length ..).ge
      | stopClear => exact (store_length ..).ge
      | _ => rfl

/-- Where a step leads to: nowhere near the connection, or to connect a new session, to disconnect
with the handle that was read, or to clear the handle of a session that was disconnected. -/
lemma mediaPlace_advance {a : Answers} {pc pc' : Pc} (h : s.advance a pc = some (s', pc')) :
    pc'.mediaPlace = .elsewhere ∨ pc'.mediaPlace = .connecting s.heap.length ∨
      (∃ p, pc'.mediaPlace = .disconnecting p (s.getClihandle p) ∧ pc.held = some p) ∨
      ∃ p x, pc.mediaPlace = .disconnecting p x ∧ a.stop.disconnect = 0 ∧
        pc'.mediaPlace = .clearing p := by
  cases pc with
  | lookup c =>
    simp only [advance] at h
    split at h <;> simp only [Option.some.injEq, Prod.mk.injEq] at h <;> obtain ⟨_, rfl⟩ := h
    · exact Or.inl rfl
    · split_ifs
      · exact Or.inr (Or.inl rfl)
      · exact Or.inl (mediaPlace_begin _ _)
  | connect c p =>
    obtain ⟨session, _, h⟩ := Option.bind_eq_some_iff.mp h
    simp only [Option.some.injEq, Prod.mk.injEq] at h
    exact Or.inl (h.2 ▸ mediaPlace_begin c p)
  | makeKeyFrame | setStreamType | setRecordType =>
    simp only [advance, Option.some.injEq, Prod.mk.injEq] at h
    rw [← h.2]
    split_ifs
    · exact Or.inl rfl
    · exact Or.inl (mediaPlace_started _ _ _)
  | play c p =>
    obtain ⟨session, _, h⟩ := Option.bind_eq_some_iff.mp h
    dsimp only at h
    split_ifs at h <;> simp only [Option.some.injEq, Prod.mk.injEq] at h <;>
      exact Or.inl (h.2 ▸ mediaPlace_started c p _)
  | stopLookup key =>
    simp only [advance] at h
    split at h <;> simp only [Option.some.injEq, Prod.mk.injEq] at h <;> rw [← h.2] <;>
      exact Or.inl rfl
  | stopOpened key p k =>
    obtain ⟨session, _, h⟩ := Option.bind_eq_some_iff.mp h
    simp only [Option.some.injEq, Prod.mk.injEq] at h
    rw [← h.2]
    split_ifs
    · exact Or.inl (mediaPlace_openedNext key p k)
    · exact Or.inl rfl
  | stopTest key p k ret =>
    obtain ⟨session, _, h⟩ := Option.bind_eq_some_iff.mp h
    simp only [Option.some.injEq, Prod.mk.injEq] at h
    rw [← h.2]
    split_ifs
    · exact Or.inl (mediaPlace_stopNext key p ret k)
    · exact Or.inl rfl
  | stopClear key p k ret =>
    obtain ⟨session, _, h⟩ := Option.bind_eq_some_iff.mp h
    simp only [Option.some.injEq, Prod.mk.injEq] at h
    exact Or.inl (h.2 ▸ mediaPlace_stopNext key p ret k)
  | testMedia key p ret =>
    obtain ⟨session, _, h⟩ := Option.bind_eq_some_iff.mp h
    simp only [Option.some.injEq, Prod.mk.injEq] at h
    rw [← h.2]
    split_ifs <;> exact Or.inl rfl
  -- the handle that the call will take is read here
  | mediaArgument key p ret =>
    obtain ⟨session, hp, h⟩ := Option.bind_eq_some_iff.mp h
    simp only [Option.some.injEq, Prod.mk.injEq] at h
    rw [← h.2, ← getClihandle_of_getElem? hp]
    exact Or.inr (Or.inr (Or.inl ⟨p, rfl, rfl⟩))
  | disconnect key p x ret =>
    simp only [advance, Option.some.injEq, Prod.mk.injEq] at h
    rw [← h.2]
    split_ifs with hret
    · exact Or.inr (Or.inr (Or.inr ⟨p, x, rfl, hret, rfl⟩))
    · exact Or.inl rfl
  | stopSession | stopArgument | clearMedia =>
    obtain ⟨session, _, h⟩ := Option.bind_eq_some_iff.mp h
    simp only [Option.some.injEq, Prod.mk.injEq] at h
    exact Or.inl (h.2 ▸ rfl)
  | insert | stopCall | del =>
    simp only [advance, Option.some.injEq, Prod.mk.injEq] at h
    exact Or.inl (h.2 ▸ rfl)
  | done ret => exact absurd h (by simp [advance])

lemma held_of_mediaPlace {pc : Pc} {h : NETHANDLE} (hpc : pc.mediaPlace = .connecting p ∨
    pc.mediaPlace = .disconnecting p h ∨ pc.mediaPlace = .clearing p) : pc.held = some p := by
  cases pc <;> simp [Pc.mediaPlace] at hpc <;> simp [Pc.held, hpc]

/-- After a step of one thread, a session is being cleared by that one or was so before. -/
lemma clearing_of_set {t : Sys} {i : ℕ} {pc' : Pc}
    (h : Clearing { t with threads := s.threads.set i pc' } q) :
    pc'.mediaPlace = .clearing q ∨ s.Clearing q := by
  obtain ⟨r, hr, hplace⟩ := h
  rcases List.mem_or_eq_of_mem_set hr with hr | rfl
  · exact Or.inr ⟨r, hr, hplace⟩
  · exact Or.inl hplace

lemma clearing_set {t : Sys} {i : ℕ} {pc pc' : Pc} (hi : s.threads[i]? = some pc)
    (hpc : pc.mediaPlace ≠ .clearing q) (h : s.Clearing q) :
    Clearing { t with threads := s.threads.set i pc' } q := by
  obtain ⟨r, hr, hplace⟩ := h
  refine ⟨r, Threads.mem_set_of_ne hi hr ?_, hplace⟩
  rintro rfl
  exact hpc hplace

end Sys

namespace MediaConnections

open Sys

variable {s s' : MediaConnections}

/-- A session keeps its handle until it is disconnected, and the handle of a stop that is about to
disconnect is that of its session. -/
structure Agrees (s : MediaConnections) : Prop where
  pointers : s.sys.Pointers
  count : s.handles.count = s.clients.length
  allocated : ∀ p c, s.handles.inUse p = some c → p < s.sys.heap.length
  aside : ∀ p, s.handles.aside p = none
  connected : ∀ p c, s.handles.inUse p = some c →
    s.handles.destroyed c = (if s.sys.Disconnected p then 1 else 0) ∧
      ∃ h, s.clients[c]? = some h ∧ (s.sys.client p = 0 ∨ s.sys.client p = h)
  unconnected : ∀ p, s.handles.inUse p = none → s.sys.client p = 0
  disconnecting : ∀ pc ∈ s.sys.threads, ∀ p h, pc.mediaPlace = .disconnecting p h →
    (h = 0 ∧ s.sys.client p = 0) ∨ ∃ c, s.handles.inUse p = some c ∧ s.clients[c]? = some h
  connecting : ∀ pc ∈ s.sys.threads, ∀ p, pc.mediaPlace = .connecting p →
    s.handles.inUse p = none

/-- What a step under the condition does to the connections: nothing, or a session is connected, by
the only thread that knows it, disconnected by a stop, or disconnected by its destructor. -/
inductive Effect (s : MediaConnections) (a : ConnectionAction) (sys : Sys) : Prop where
  | quiet (hact : act s.sys a = .skip) (hopened : opened s.sys a = [])
    (hclient : ∀ q, sys.client q = s.sys.client q ∨ sys.client q = 0 ∧ s.sys.Clearing q)
    (hclearing : ∀ q, sys.Clearing q → s.sys.Disconnected q)
    (hcleared : ∀ q, s.sys.Clearing q → sys.Disconnected q)
    (hplace : ∀ pc ∈ sys.threads, pc ∈ s.sys.threads ∨ (∃ p, pc.mediaPlace = .clearing p) ∨
      pc.mediaPlace = .elsewhere ∨ pc.mediaPlace = .connecting s.sys.heap.length ∨
      ∃ p, pc.mediaPlace = .disconnecting p (s.sys.client p))
  | connect {p : ℕ} {h : NETHANDLE} (hact : act s.sys a = .create p true)
    (hopened : opened s.sys a = [h]) (hnew : h ≠ 0) (hlt : p < s.sys.heap.length)
    (hunused : s.handles.inUse p = none)
    (hclient : ∀ q, sys.client q = if q = p then h else s.sys.client q)
    (hclearing : ∀ q, sys.Clearing q ↔ s.sys.Clearing q)
    (halone : ∀ pc ∈ sys.threads, pc ∈ s.sys.threads ∧ pc.held ≠ some p ∨
      pc.mediaPlace = .elsewhere)
  | disconnect {p c : ℕ} (hact : act s.sys a = .destroy p false) (hopened : opened s.sys a = [])
    (hused : s.handles.inUse p = some c) (hnot : ¬ s.sys.Disconnected p)
    (hclient : ∀ q, sys.client q = s.sys.client q)
    (hclearing : ∀ q, sys.Clearing q ↔ q = p ∨ s.sys.Clearing q)
    (hplace : ∀ pc ∈ sys.threads, pc ∈ s.sys.threads ∨ pc.mediaPlace = .clearing p)
  | destroy {p c : ℕ} (hact : act s.sys a = .destroy p true) (hopened : opened s.sys a = [])
    (hused : s.handles.inUse p = some c) (hnot : ¬ s.sys.Disconnected p)
    (hclient : ∀ q, sys.client q = if q = p then 0 else s.sys.client q)
    (hthreads : sys.threads = s.sys.threads) (hheld : ∀ pc ∈ s.sys.threads, pc.held ≠ some p)

/-- A session that is alive and not disconnected has the number of its connection, which was not
destroyed. -/
lemma Agrees.inUse (h : s.Agrees) {p : ℕ} (hp : ¬ s.sys.Disconnected p) :
    ∃ c, s.handles.inUse p = some c ∧ s.handles.destroyed c = 0 := by
  cases hc : s.handles.inUse p with
  | none => exact absurd (Or.inl (h.unconnected p hc)) hp
  | some c => exact ⟨c, rfl, (h.connected p c hc).1.trans (if_neg hp)⟩

lemma connected_of_writeFails {session : PlaySession} {writeResult : ℕ → ℤ} {data : List UInt8}
    (h : (session.sendMS (.start writeResult) data).2.2.Failed) : session.nMediaClient ≠ 0 := by
  intro h0
  have hstart : ¬ (SendEnv.start writeResult).Failed := by simp [SendEnv.Failed, SendEnv.start]
  cases hrun : session.isRun with
  | false =>
    rw [sendMS_stopped _ data hrun] at h
    exact hstart h
  | true =>
    rw [sendMS_unconnected _ data hrun h0, storeFrame_failed] at h
    exact hstart h

lemma effect_connect {i : ℕ} {a : Answers} {c : StartCall} {p : ℕ} {pc' : Pc} {sys : Sys}
    (h : s.Agrees) (hi : s.sys.threads[i]? = some (.connect c p))
    (hadv : s.sys.advance a (.connect c p) = some (sys, pc')) :
    Effect s (.sys (.step i a)) { sys with threads := s.sys.threads.set i pc' } := by
  have hmem := List.mem_of_getElem? hi
  have hunused := h.connecting _ hmem p rfl
  obtain ⟨hlt, hlive⟩ := h.pointers.held _ hmem p rfl
  obtain ⟨session, hp, hadv⟩ := Option.bind_eq_some_iff.mp hadv
  simp only [Option.some.injEq, Prod.mk.injEq] at hadv
  obtain ⟨rfl, rfl⟩ := hadv
  have hbegin : (c.begin p).mediaPlace = .elsewhere := mediaPlace_begin c p
  have hthreads : ∀ pc ∈ s.sys.threads.set i (c.begin p),
      pc ∈ s.sys.threads ∧ pc.held ≠ some p ∨ pc.mediaPlace = .elsewhere := by
    intro pc hpc
    obtain ⟨j, hj⟩ := List.getElem?_of_mem hpc
    rcases Threads.getElem?_set_cases hj with ⟨_, rfl⟩ | ⟨hne, hj⟩
    · exact Or.inr hbegin
    · refine Or.inl ⟨List.mem_of_getElem? hj, fun hheld => ?_⟩
      exact hne (h.pointers.alone i j _ pc p hi hj rfl hheld).symm
  by_cases hok : a.media.connect.1 = 0 ∧ a.media.connect.2 ≠ 0
  · refine .connect (by rw [act, hi]; exact if_pos hok) ?_ hok.2 hlt hunused ?_ (fun q => ?_)
      hthreads
    · simp [opened, Sys.connected, hi, hok]
    · intro q
      refine (client_store hp hlive _ q).trans ?_
      rw [setMSAddr_nMediaClient, if_pos hok.1]
    · constructor
      · exact fun hq => (clearing_of_set hq).resolve_left (by simp [hbegin])
      · exact clearing_set hi (by simp [Pc.mediaPlace])
  · -- there is no connection, and the member is what it was
    have hbefore : session.nMediaClient = 0 := by
      rw [← getClihandle_of_getElem? hp, ← client_eq hlive]
      exact h.unconnected p hunused
    refine .quiet (by rw [act, hi]; exact if_neg hok) ?_ ?_ ?_ ?_ ?_
    · simp only [opened, Sys.connected, hi]
      split_ifs with hret
      · exact if_neg fun hne => hok ⟨hret, hne⟩
      · rfl
    · have hsame : (session.setMSAddr a.media c.sdpIp c.port c.streamMode).2.nMediaClient =
          session.nMediaClient := by
        rw [setMSAddr_nMediaClient, hbefore]
        split_ifs with hret
        · exact not_not.mp fun hne => hok ⟨hret, hne⟩
        · rfl
      intro q
      refine Or.inl (client_same ?_ ?_ q)
      · rfl
      · exact getClihandle_store_same hp hsame
    · exact fun q hq => Or.inr ((clearing_of_set hq).resolve_left (by simp [hbegin]))
    · exact fun q hq => Or.inr (clearing_set hi (by simp [Pc.mediaPlace]) hq)
    · intro pc hpc
      rcases hthreads pc hpc with ⟨hold, _⟩ | hplace
      · exact Or.inl hold
      · exact Or.inr (Or.inr (Or.inl hplace))

/-- The call of `XHNetSDK_Disconnect` in a stop, when no other stop has disconnected the session. -/
lemma effect_disconnect {i : ℕ} {a : Answers} {key : String} {p : ℕ} {x : NETHANDLE} {ret : ℤ}
    {pc' : Pc} {sys : Sys} (h : s.Agrees) (hi : s.sys.threads[i]? = some (.disconnect key p x ret))
    (hk : x ≠ 0 → a.stop.disconnect = 0 → ¬ s.sys.Disconnected p)
    (hadv : s.sys.advance a (.disconnect key p x ret) = some (sys, pc')) :
    Effect s (.sys (.step i a)) { sys with threads := s.sys.threads.set i pc' } := by
  have hmem := List.mem_of_getElem? hi
  have hopened : opened s.sys (.sys (.step i a)) = [] := by simp [opened, Sys.connected, hi]
  have hkept : ∀ q, s.sys.Clearing q →
      Clearing { s.sys with threads := s.sys.threads.set i pc' } q :=
    fun q => clearing_set hi (by simp [Pc.mediaPlace])
  simp only [Sys.advance, Option.some.injEq, Prod.mk.injEq] at hadv
  obtain ⟨rfl, hpc'⟩ := hadv
  have hplace : pc'.mediaPlace = if a.stop.disconnect = 0 then .clearing p else .elsewhere := by
    rw [← hpc']
    split_ifs <;> rfl
  have hthreads : ∀ pc ∈ s.sys.threads.set i pc', pc ∈ s.sys.threads ∨ pc = pc' :=
    fun pc hpc => List.mem_or_eq_of_mem_set hpc
  by_cases hok : x ≠ 0 ∧ a.stop.disconnect = 0
  · have hnot := hk hok.1 hok.2
    obtain ⟨c, hused, _⟩ := h.inUse hnot
    rw [if_pos hok.2] at hplace
    refine .disconnect (by rw [act, hi]; exact if_pos hok) hopened hused hnot (fun _ => rfl) ?_ ?_
    · intro q
      constructor
      · intro hq
        refine (clearing_of_set hq).imp_left fun heq => ?_
        exact (MediaPlace.clearing.inj (hplace.symm.trans heq)).symm
      · rintro (rfl | hq)
        · exact ⟨pc', Threads.mem_set_self pc' hi, hplace⟩
        · exact hkept q hq
    · intro pc hpc
      refine (hthreads pc hpc).imp_right ?_
      rintro rfl
      exact hplace
  · refine .quiet (by rw [act, hi]; exact if_neg hok) hopened (fun _ => Or.inl rfl) ?_ ?_ ?_
    · intro q hq
      rcases clearing_of_set hq with hclear | hold
      · -- the handle that was read is `0`
        rw [hplace] at hclear
        split_ifs at hclear with hret
        obtain rfl := MediaPlace.clearing.inj hclear
        have hx : x = 0 := not_not.mp fun hx => hok ⟨hx, hret⟩
        rcases h.disconnecting _ hmem p x rfl with ⟨_, h0⟩ | ⟨c, hc, hget⟩
        · exact Or.inl h0
        · obtain ⟨_, y, hy, hclient⟩ := h.connected p c hc
          obtain rfl := Option.some.inj (hget.symm.trans hy)
          exact Or.inl (hclient.elim id fun hxy => hxy.trans hx)
      · exact Or.inr hold
    · exact fun q hq => Or.inr (hkept q hq)
    · intro pc hpc
      refine (hthreads pc hpc).imp_right ?_
      rintro rfl
      rw [hplace]
      split_ifs
      · exact Or.inl ⟨p, rfl⟩
      · exact Or.inr (Or.inl rfl)

lemma effect_clear {i : ℕ} {a : Answers} {key : String} {p : ℕ} {ret : ℤ} {pc' : Pc} {sys : Sys}
    (h : s.Agrees) (hi : s.sys.threads[i]? = some (.clearMedia key p ret))
    (hadv : s.sys.advance a (.clearMedia key p ret) = some (sys, pc')) :
    Effect s (.sys (.step i a)) { sys with threads := s.sys.threads.set i pc' } := by
  have hmem := List.mem_of_getElem? hi
  have hlive := (h.pointers.held _ hmem p rfl).2
  obtain ⟨session, hp, hadv⟩ := Option.bind_eq_some_iff.mp hadv
  simp only [Option.some.injEq, Prod.mk.injEq] at hadv
  obtain ⟨rfl, rfl⟩ := hadv
  have hclient : ∀ q, client { s.sys.store p { session with nMediaClient := 0 } with
      threads := s.sys.threads.set i (.del key p ret) } q =
        if q = p then 0 else s.sys.client q := client_store hp hlive _
  refine .quiet (by rw [act, hi]) (by simp [opened, Sys.connected, hi]) ?_ ?_ ?_ ?_
  · intro q
    rw [hclient]
    split_ifs with hq
    · exact Or.inr ⟨rfl, _, hmem, hq ▸ rfl⟩
    · exact Or.inl rfl
  · exact fun q hq => Or.inr ((clearing_of_set hq).resolve_left (by simp [Pc.mediaPlace]))
  · -- the session that was being cleared has 0 in its member, and counts as disconnected by that
    intro q hq
    by_cases hqp : q = p
    · exact Or.inl (by rw [hclient, if_pos hqp])
    · refine Or.inr (clearing_set hi ?_ hq)
      simpa [Pc.mediaPlace] using Ne.symm hqp
  · intro pc hpc
    rcases List.mem_or_eq_of_mem_set hpc with hold | rfl
    · exact Or.inl hold
    · exact Or.inr (Or.inr (Or.inl rfl))

lemma effect_thread {i : ℕ} {a : Answers} {pc pc' : Pc} {sys : Sys} (h : s.Agrees)
    (hi : s.sys.threads[i]? = some pc) (hk : s.Keeps (.sys (.step i a)))
    (hadv : s.sys.advance a pc = some (sys, pc')) :
    Effect s (.sys (.step i a)) { sys with threads := s.sys.threads.set i pc' } := by
  have hmem := List.mem_of_getElem? hi
  cases pc with
  | connect c p => exact effect_connect h hi hadv
  | disconnect key p x ret => exact effect_disconnect h hi (hk key p x ret hi) hadv
  | clearMedia key p ret => exact effect_clear h hi hadv
  -- no other step calls the library or changes a member that holds a connection
  | _ =>
    have hclient := client_same (freed_of_advance hadv)
      (getClihandle_advance hadv (by simp) (by simp))
    have hplace := mediaPlace_advance hadv
    simp only [Pc.mediaPlace, reduceCtorEq, false_and, exists_false, or_false] at hplace
    refine .quiet (by rw [act, hi]) (by simp [opened, Sys.connected, hi])
      (fun q => Or.inl (hclient q)) ?_ ?_ ?_
    · intro q hq
      refine Or.inr ((clearing_of_set hq).resolve_left fun hclear => ?_)
      rcases hplace with hp | hp | ⟨_, hp, _⟩ <;> exact absurd (hclear.symm.trans hp) (by simp)
    · exact fun q hq => Or.inr (clearing_set hi (by simp [Pc.mediaPlace]) hq)
    · intro pc hpc
      rcases List.mem_or_eq_of_mem_set hpc with hold | rfl
      · exact Or.inl hold
      · rcases hplace with hp | hp | ⟨p, hp, hheld⟩
        · exact Or.inr (Or.inr (Or.inl hp))
        · exact Or.inr (Or.inr (Or.inr (Or.inl hp)))
        · refine Or.inr (Or.inr (Or.inr (Or.inr ⟨p, ?_⟩)))
          rw [client_eq (h.pointers.held _ hmem p hheld).2]
          exact hp

/-- A step that no thread makes, and that changes no connection which is to be disconnected. -/
lemma effect_quiet {a : ConnectionAction} {sys : Sys} (hact : act s.sys a = .skip)
    (hopened : opened s.sys a = []) (hthreads : sys.threads = s.sys.threads)
    (hclient : ∀ q, sys.client q = s.sys.client q ∨ sys.client q = 0 ∧ s.sys.Clearing q) :
    Effect s a sys := by
  refine .quiet hact hopened hclient ?_ ?_ ?_
  · rintro q ⟨pc, hpc, hplace⟩
    exact Or.inr ⟨pc, hthreads ▸ hpc, hplace⟩
  · rintro q ⟨pc, hpc, hplace⟩
    exact Or.inr ⟨pc, hthreads ▸ hpc, hplace⟩
  · exact fun pc hpc => Or.inl (hthreads ▸ hpc)

/-- A packet whose write does not fail, or fails on a connection that is disconnected. -/
lemma effect_sendMS {p : ℕ} {data : List UInt8} {writeResult : ℕ → ℤ} {sys : Sys}
    (hk : s.Keeps (.sendMS p data writeResult))
    (hs : s.sys.stepMS (.sendMS p data writeResult) = some sys) :
    Effect s (.sendMS p data writeResult) sys := by
  obtain ⟨session, hp, _, hlive, rfl⟩ := stepMS_sendMS hs
  refine effect_quiet (if_neg fun h => h.2 (hk h.1)) rfl rfl fun q => ?_
  have hclient := sendMS_nMediaClient session writeResult data
  by_cases hfail : (session.sendMS (.start writeResult) data).2.2.Failed
  · rw [if_pos hfail] at hclient
    rw [client_store hp hlive, hclient]
    split_ifs with hq
    · -- the write may fail only on a handle that is disconnected already
      rcases hk ⟨session, hp, hfail⟩ with h0 | hclearing
      · rw [client_eq hlive, getClihandle_of_getElem? hp] at h0
        exact absurd h0 (connected_of_writeFails hfail)
      · exact Or.inr ⟨rfl, hq ▸ hclearing⟩
    · exact Or.inl rfl
  · rw [if_neg hfail] at hclient
    refine Or.inl (client_same ?_ ?_ q)
    · rfl
    · exact getClihandle_store_same hp hclient

lemma effect_destroy {p : ℕ} {val : ℤ} {sys : Sys} (h : s.Agrees)
    (hk : s.Keeps (.sys (.destroy p val))) (hs : s.sys.next (.destroy p val) = some sys) :
    Effect s (.sys (.destroy p val)) sys := by
  obtain ⟨session, hp, hlive, ⟨_, hheld⟩, rfl⟩ := next_destroy hs
  have hclient := client_destroy hp (session.disconnetMS val)
  by_cases h0 : s.sys.getClihandle p = 0
  · refine effect_quiet (if_pos h0) rfl rfl fun q => Or.inl ?_
    rw [hclient]
    split_ifs with hq
    · rw [hq, client_eq hlive, h0]
    · rfl
  · have hval : val = 0 := hk.resolve_left h0
    -- nobody is clearing the session, since nobody holds it
    have hnot : ¬ s.sys.Disconnected p := by
      rintro (hzero | ⟨pc, hpc, hplace⟩)
      · exact h0 ((client_eq hlive).symm.trans hzero)
      · exact hheld pc hpc (held_of_mediaPlace (h := 0) (Or.inr (Or.inr hplace)))
    obtain ⟨c, hused, _⟩ := h.inUse hnot
    refine .destroy ?_ rfl hused hnot hclient rfl hheld
    rw [act, if_neg h0, if_pos hval]

lemma effect_of_keeps {a : ConnectionAction} {sys : Sys} (h : s.Agrees) (hk : s.Keeps a)
    (hs : s.sys.stepMS a = some sys) : Effect s a sys := by
  cases a with
  | sendMS p data writeResult => exact effect_sendMS hk hs
  | sys a =>
    replace hs := (step_eq_some.mp hs).2
    cases a with
    | call c =>
      obtain rfl := Option.some.inj hs
      have hentry : c.entry.mediaPlace = .elsewhere := by
        cases c <;> rfl
      refine .quiet rfl rfl (fun _ => Or.inl rfl) ?_ ?_ ?_
      · rintro q ⟨pc, hpc, hplace⟩
        rcases List.mem_append.mp hpc with hpc | hpc
        · exact Or.inr ⟨pc, hpc, hplace⟩
        · rw [List.mem_singleton.mp hpc, hentry] at hplace
          exact absurd hplace (by simp)
      · rintro q ⟨pc, hpc, hplace⟩
        exact Or.inr ⟨pc, List.mem_append_left _ hpc, hplace⟩
      · intro pc hpc
        rcases List.mem_append.mp hpc with hpc | hpc
        · exact Or.inl hpc
        · rw [List.mem_singleton.mp hpc]
          exact Or.inr (Or.inr (Or.inl hentry))
    | onclose clihandle =>
      rcases next_onclose hs with ⟨_, rfl⟩ | ⟨hhas, _⟩
      · exact effect_quiet rfl rfl rfl fun _ => Or.inl rfl
      · exact absurd hhas hk
    | step i a =>
      obtain ⟨pc, t, pc', hi, hadv, rfl⟩ := next_step hs
      exact effect_thread h hi hk hadv
    | destroy p val => exact effect_destroy h hk hs

/-! ### The invariant -/

lemma Agrees.lt_count (h : s.Agrees) {p c : ℕ} (hp : s.handles.inUse p = some c) :
    c < s.handles.count := by
  obtain ⟨_, x, hx, _⟩ := h.connected p c hp
  rw [h.count]
  exact (List.getElem?_eq_some_iff.mp hx).1

lemma Agrees.quiet {sys : Sys} (h : s.Agrees) (hpointers : sys.Pointers)
    (hlength : s.sys.heap.length ≤ sys.heap.length)
    (hclient : ∀ q, sys.client q = s.sys.client q ∨ sys.client q = 0 ∧ s.sys.Clearing q)
    (hclearing : ∀ q, sys.Clearing q → s.sys.Disconnected q)
    (hcleared : ∀ q, s.sys.Clearing q → sys.Disconnected q)
    (hplace : ∀ pc ∈ sys.threads, pc ∈ s.sys.threads ∨ (∃ p, pc.mediaPlace = .clearing p) ∨
      pc.mediaPlace = .elsewhere ∨ pc.mediaPlace = .connecting s.sys.heap.length ∨
      ∃ p, pc.mediaPlace = .disconnecting p (s.sys.client p)) :
    Agrees ⟨sys, s.handles, s.clients⟩ := by
  have hzero : ∀ q, s.sys.client q = 0 → sys.client q = 0 := by
    intro q h0
    rcases hclient q with heq | ⟨heq, _⟩
    · exact heq.trans h0
    · exact heq
  have hdisconnected : ∀ q, s.sys.Disconnected q ↔ sys.Disconnected q := by
    intro q
    constructor
    · rintro (h0 | hq)
      · exact Or.inl (hzero q h0)
      · exact hcleared q hq
    · rintro (h0 | hq)
      · rcases hclient q with heq | ⟨_, hq⟩
        · exact Or.inl (heq.symm.trans h0)
        · exact Or.inr hq
      · exact hclearing q hq
  refine ⟨hpointers, h.count, ?_, h.aside, ?_, ?_, ?_, ?_⟩
  · exact fun p c hp => (h.allocated p c hp).trans_le hlength
  · intro p c hp
    obtain ⟨hdestroyed, x, hx, hpx⟩ := h.connected p c hp
    refine ⟨hdestroyed.trans (if_congr (hdisconnected p) rfl rfl), x, hx, ?_⟩
    rcases hclient p with heq | ⟨heq, _⟩
    · exact hpx.imp heq.trans heq.trans
    · exact Or.inl heq
  · exact fun p hp => hzero p (h.unconnected p hp)
  · intro pc hpc p x hpx
    rcases hplace pc hpc with hold | ⟨q, hq⟩ | hq | hq | ⟨q, hq⟩
    · exact (h.disconnecting pc hold p x hpx).imp_left fun ⟨hx, h0⟩ => ⟨hx, hzero p h0⟩
    · exact absurd (hpx.symm.trans hq) (by simp)
    · exact absurd (hpx.symm.trans hq) (by simp)
    · exact absurd (hpx.symm.trans hq) (by simp)
    · obtain ⟨rfl, rfl⟩ := MediaPlace.disconnecting.inj (hpx.symm.trans hq)
      cases hc : s.handles.inUse p with
      | none =>
        have h0 := h.unconnected p hc
        exact Or.inl ⟨h0, hzero p h0⟩
      | some c =>
        obtain ⟨_, y, hy, h0 | hpy⟩ := h.connected p c hc
        · exact Or.inl ⟨h0, hzero p h0⟩
        · exact Or.inr ⟨c, rfl, hpy ▸ hy⟩
  · intro pc hpc p hp
    rcases hplace pc hpc with hold | ⟨q, hq⟩ | hq | hq | ⟨q, hq⟩
    · exact h.connecting pc hold p hp
    · exact absurd (hp.symm.trans hq) (by simp)
    · exact absurd (hp.symm.trans hq) (by simp)
    · obtain rfl := MediaPlace.connecting.inj (hp.symm.trans hq)
      exact Option.eq_none_iff_forall_ne_some.mpr fun c hc => (h.allocated _ c hc).ne rfl
    · exact absurd (hp.symm.trans hq) (by simp)

lemma Agrees.connect {sys : Sys} {p : ℕ} {x : NETHANDLE} (h : s.Agrees) (hpointers : sys.Pointers)
    (hlength : s.sys.heap.length ≤ sys.heap.length) (hnew : x ≠ 0) (hlt : p < s.sys.heap.length)
    (hunused : s.handles.inUse p = none)
    (hclient : ∀ q, sys.client q = if q = p then x else s.sys.client q)
    (hclearing : ∀ q, sys.Clearing q ↔ s.sys.Clearing q)
    (halone : ∀ pc ∈ sys.threads, pc ∈ s.sys.threads ∧ pc.held ≠ some p ∨
      pc.mediaPlace = .elsewhere) :
    Agrees ⟨sys, s.handles.step (.create p true), s.clients ++ [x]⟩ := by
  have hclient_ne : ∀ {q}, q ≠ p → sys.client q = s.sys.client q := fun hq =>
    (hclient _).trans (if_neg hq)
  -- the session has a handle, and the thread that holds it is not in `DisconnetMS`
  have hnot : ¬ sys.Disconnected p := by
    rintro (h0 | ⟨pc, hpc, hplace⟩)
    · rw [hclient, if_pos rfl] at h0
      exact hnew h0
    · rcases halone pc hpc with ⟨_, hheld⟩ | helse
      · exact hheld (held_of_mediaPlace (h := 0) (Or.inr (Or.inr hplace)))
      · exact absurd (hplace.symm.trans helse) (by simp)
  have hother : ∀ {q}, q ≠ p → (s.sys.Disconnected q ↔ sys.Disconnected q) := fun hq => by
    rw [Disconnected, Disconnected, hclient_ne hq, hclearing]
  refine ⟨hpointers, ?_, ?_, h.aside, ?_, ?_, ?_, ?_⟩
  · show s.handles.count + 1 = _
    rw [h.count, List.length_append, List.length_singleton]
  · intro q c hq
    rcases Handles.update_eq_some.mp hq with ⟨rfl, _⟩ | ⟨_, hq⟩
    · exact hlt.trans_le hlength
    · exact (h.allocated q c hq).trans_le hlength
  · intro q c hq
    rcases Handles.update_eq_some.mp hq with ⟨rfl, hc⟩ | ⟨hne, hq⟩
    · obtain rfl := Option.some.inj hc
      refine ⟨?_, x, ?_, Or.inr ((hclient q).trans (if_pos rfl))⟩
      · rw [if_neg hnot]
        exact Function.update_self ..
      · show (s.clients ++ [x])[s.handles.count]? = some x
        rw [h.count, List.getElem?_concat_length]
    · obtain ⟨hdestroyed, y, hy, hqy⟩ := h.connected q c hq
      have hcount := h.lt_count hq
      refine ⟨?_, y, ?_, ?_⟩
      · refine (Function.update_of_ne hcount.ne _ _).trans ?_
        exact hdestroyed.trans (if_congr (hother hne) rfl rfl)
      · exact (List.getElem?_append_left (h.count ▸ hcount)).trans hy
      · exact hqy.imp (hclient_ne hne).trans (hclient_ne hne).trans
  · intro q hq
    have hne : q ≠ p := by
      rintro rfl
      exact absurd ((Function.update_self ..).symm.trans hq) (by simp)
    rw [hclient_ne hne]
    exact h.unconnected q ((Function.update_of_ne hne _ _).symm.trans hq)
  · intro pc hpc q y hqy
    rcases halone pc hpc with ⟨hold, hheld⟩ | helse
    · have hne : q ≠ p := by
        rintro rfl
        exact hheld (held_of_mediaPlace (Or.inr (Or.inl hqy)))
      rcases h.disconnecting pc hold q y hqy with ⟨hy, h0⟩ | ⟨c, hc, hy⟩
      · exact Or.inl ⟨hy, (hclient_ne hne).trans h0⟩
      · refine Or.inr ⟨c, (Function.update_of_ne hne _ _).trans hc, ?_⟩
        exact (List.getElem?_append_left (h.count ▸ h.lt_count hc)).trans hy
    · exact absurd (hqy.symm.trans helse) (by simp)
  · intro pc hpc q hq
    rcases halone pc hpc with ⟨hold, hheld⟩ | helse
    · have hne : q ≠ p := by
        rintro rfl
        exact hheld (held_of_mediaPlace (h := 0) (Or.inl hq))
      exact (Function.update_of_ne hne _ _).trans (h.connecting pc hold q hq)
    · exact absurd (hq.symm.trans helse) (by simp)

lemma Agrees.disconnect {sys : Sys} {p c : ℕ} (h : s.Agrees) (hI : s.handles.Inv)
    (hpointers : sys.Pointers) (hlength : s.sys.heap.length ≤ sys.heap.length)
    (hused : s.handles.inUse p = some c) (hnot : ¬ s.sys.Disconnected p)
    (hclient : ∀ q, sys.client q = s.sys.client q)
    (hclearing : ∀ q, sys.Clearing q ↔ q = p ∨ s.sys.Clearing q)
    (hplace : ∀ pc ∈ sys.threads, pc ∈ s.sys.threads ∨ pc.mediaPlace = .clearing p) :
    Agrees ⟨sys, s.handles.step (.destroy p false), s.clients⟩ := by
  have hdisconnected : ∀ q, sys.Disconnected q ↔ q = p ∨ s.sys.Disconnected q := by
    intro q
    rw [Disconnected, Disconnected, hclient, hclearing, or_left_comm]
  refine ⟨hpointers, h.count, ?_, h.aside, ?_, ?_, ?_, ?_⟩
  · exact fun q d hq => (h.allocated q d hq).trans_le hlength
  · intro q d hq
    obtain ⟨hdestroyed, y, hy, hqy⟩ := h.connected q d hq
    refine ⟨?_, y, hy, by rwa [hclient]⟩
    show Handles.destroy s.handles.destroyed (s.handles.inUse p) d = _
    rw [hused, Handles.destroy]
    by_cases hqp : q = p
    · subst hqp
      obtain rfl := Option.some.inj (hused.symm.trans hq)
      rw [Function.update_self, hdestroyed, if_neg hnot,
        if_pos ((hdisconnected q).mpr (Or.inl rfl))]
    · have hne : d ≠ c := fun heq => hqp (hI.own q p c (Or.inl (heq ▸ hq)) (Or.inl hused))
      have hiff : s.sys.Disconnected q ↔ sys.Disconnected q := by
        rw [hdisconnected, or_iff_right hqp]
      rw [Function.update_of_ne hne, hdestroyed]
      exact if_congr hiff rfl rfl
  · exact fun q hq => (hclient q).trans (h.unconnected q hq)
  · intro pc hpc q y hqy
    rcases hplace pc hpc with hold | hclear
    · rw [hclient]
      exact h.disconnecting pc hold q y hqy
    · exact absurd (hqy.symm.trans hclear) (by simp)
  · intro pc hpc q hq
    rcases hplace pc hpc with hold | hclear
    · exact h.connecting pc hold q hq
    · exact absurd (hq.symm.trans hclear) (by simp)

lemma Agrees.destroy {sys : Sys} {p c : ℕ} (h : s.Agrees) (hI : s.handles.Inv)
    (hpointers : sys.Pointers) (hlength : s.sys.heap.length ≤ sys.heap.length)
    (hused : s.handles.inUse p = some c)
    (hclient : ∀ q, sys.client q = if q = p then 0 else s.sys.client q)
    (hthreads : sys.threads = s.sys.threads) (hheld : ∀ pc ∈ s.sys.threads, pc.held ≠ some p) :
    Agrees ⟨sys, s.handles.step (.destroy p true), s.clients⟩ := by
  have hclient_ne : ∀ {q}, q ≠ p → sys.client q = s.sys.client q := fun hq =>
    (hclient _).trans (if_neg hq)
  have hdisconnected : ∀ {q}, q ≠ p → (s.sys.Disconnected q ↔ sys.Disconnected q) := fun hq => by
    rw [Disconnected, Disconnected, Clearing, Clearing, hclient_ne hq, hthreads]
  refine ⟨hpointers, h.count, ?_, h.aside, ?_, ?_, ?_, ?_⟩
  · intro q d hq
    rcases Handles.update_eq_some.mp hq with ⟨_, hnone⟩ | ⟨_, hq⟩
    · simp at hnone
    · exact (h.allocated q d hq).trans_le hlength
  · intro q d hq
    rcases Handles.update_eq_some.mp hq with ⟨_, hnone⟩ | ⟨hqp, hq⟩
    · simp at hnone
    · obtain ⟨hdestroyed, y, hy, hqy⟩ := h.connected q d hq
      have hne : d ≠ c := fun heq => hqp (hI.own q p c (Or.inl (heq ▸ hq)) (Or.inl hused))
      refine ⟨?_, y, hy, by rwa [hclient_ne hqp]⟩
      show Handles.destroy s.handles.destroyed (s.handles.inUse p) d = _
      rw [hused, Handles.destroy, Function.update_of_ne hne, hdestroyed]
      exact if_congr (hdisconnected hqp) rfl rfl
  · intro q hq
    rw [hclient]
    split_ifs with hqp
    · rfl
    · exact h.unconnected q ((Function.update_of_ne hqp _ _).symm.trans hq)
  · intro pc hpc q y hqy
    rw [hthreads] at hpc
    have hqp : q ≠ p := by
      rintro rfl
      exact hheld pc hpc (held_of_mediaPlace (Or.inr (Or.inl hqy)))
    rw [hclient_ne hqp]
    refine (h.disconnecting pc hpc q y hqy).imp_right ?_
    rintro ⟨d, hd, hy⟩
    exact ⟨d, (Function.update_of_ne hqp _ _).trans hd, hy⟩
  · intro pc hpc q hq
    rw [hthreads] at hpc
    have hqp : q ≠ p := by
      rintro rfl
      exact hheld pc hpc (held_of_mediaPlace (h := 0) (Or.inl hq))
    exact (Function.update_of_ne hqp _ _).trans (h.connecting pc hpc q hq)

/-- A step under the condition keeps the numbers right, and forgets no connection and disconnects
none again. -/
lemma Agrees.step {a : ConnectionAction} (h : s.Agrees) (hI : s.handles.Inv) (hk : s.Keeps a)
    (hs : s.step a = some s') : s'.Agrees ∧ s.handles.Cond (act s.sys a) := by
  obtain ⟨sys, hsys, rfl⟩ := Option.map_eq_some_iff.mp hs
  have hpointers := h.pointers.stepMS hsys
  have hlength := length_stepMS hsys
  cases effect_of_keeps h hk hsys with
  | quiet hact hopened hclient hclearing hcleared hplace =>
    rw [hact, hopened, List.append_nil]
    exact ⟨h.quiet hpointers hlength hclient hclearing hcleared hplace, trivial⟩
  | connect hact hopened hnew hlt hunused hclient hclearing halone =>
    rw [hact, hopened]
    refine ⟨h.connect hpointers hlength hnew hlt hunused hclient hclearing halone, ?_⟩
    exact fun c hc => absurd (hunused.symm.trans hc) (by simp)
  | disconnect hact hopened hused hnot hclient hclearing hplace =>
    rw [hact, hopened, List.append_nil]
    refine ⟨h.disconnect hI hpointers hlength hused hnot hclient hclearing hplace, ?_⟩
    exact fun c hc => (h.connected _ c hc).1.trans (if_neg hnot)
  | destroy hact hopened hused hnot hclient hthreads hheld =>
    rw [hact, hopened, List.append_nil]
    refine ⟨h.destroy hI hpointers hlength hused hclient hthreads hheld, ?_⟩
    exact fun c hc => (h.connected _ c hc).1.trans (if_neg hnot)

/-- A step that does not meet the condition fails, forgets a connection, or disconnects one
again. -/
lemma Agrees.not_kept {a : ConnectionAction} (h : s.Agrees) (hI : s.handles.Inv)
    (hk : ¬ s.Keeps a) (hs : s.step a = some s') : ¬ s'.Kept := by
  obtain ⟨sys, hsys, rfl⟩ := Option.map_eq_some_iff.mp hs
  intro hkept
  have hcond : s.handles.Cond (act s.sys a) := by
    by_contra hc
    exact hI.not_kept hc hkept.kept
  -- a connection that is open is not destroyed and not set aside
  have hlost : ∀ {p}, ¬ s.sys.Disconnected p → act s.sys a ≠ .create p false := by
    intro p hnot hact
    obtain ⟨c, hused, hdestroyed⟩ := h.inUse hnot
    rw [hact] at hcond
    rcases hcond c hused with haside | hgone
    · exact absurd ((h.aside p).symm.trans haside) (by simp)
    · exact absurd (hdestroyed.symm.trans hgone) (by simp)
  cases a with
  | sendMS p data writeResult =>
    obtain ⟨hfail, hnot⟩ := Classical.not_imp.mp hk
    exact hlost hnot (if_pos ⟨hfail, hnot⟩)
  | sys a =>
    replace hsys := (step_eq_some.mp hsys).2
    cases a with
    | call c => exact hk trivial
    | onclose clihandle =>
      rcases next_onclose hsys with ⟨hnot, _⟩ | ⟨_, rfl⟩
      · exact hk hnot
      · exact absurd hkept.handled (by simp)
    | destroy p val =>
      obtain ⟨session, hp, hlive, ⟨_, hheld⟩, _⟩ := next_destroy hsys
      obtain ⟨h0, hval⟩ := not_or.mp hk
      refine hlost (p := p) ?_ ((if_neg h0).trans (if_neg hval))
      rintro (hzero | ⟨pc, hpc, hplace⟩)
      · exact h0 ((client_eq hlive).symm.trans hzero)
      · exact hheld pc hpc (held_of_mediaPlace (h := 0) (Or.inr (Or.inr hplace)))
    | step i b =>
      simp only [Keeps, not_forall, not_not] at hk
      obtain ⟨key, p, x, ret, hi, hx, hret, hdisconnected⟩ := hk
      have hact : act s.sys (.sys (.step i b)) = .destroy p false := by
        rw [act, hi]
        exact if_pos ⟨hx, hret⟩
      rw [hact] at hcond
      rcases h.disconnecting _ (List.mem_of_getElem? hi) p x rfl with ⟨h0, _⟩ | ⟨c, hused, _⟩
      · exact hx h0
      · have hgone := (h.connected p c hused).1
        rw [if_pos hdisconnected, hcond c hused] at hgone
        exact absurd hgone (by simp)

lemma agrees_start : start.Agrees where
  pointers := start_invariant.1
  count := rfl
  allocated := fun _ _ h => absurd h (by simp [start])
  aside := fun _ => rfl
  connected := fun _ _ h => absurd h (by simp [start])
  unconnected := fun _ _ => rfl
  disconnecting := fun _ h => absurd h List.not_mem_nil
  connecting := fun _ h => absurd h List.not_mem_nil

lemma inv_start : start.handles.Inv where
  held := fun c hc => absurd hc (Nat.not_lt_zero c)
  once := fun _ => Nat.zero_le 1
  used := rfl
  known := by
    rintro o c (ho | ho) <;> simp [start] at ho
  own := by
    rintro o o' c (ho | ho) <;> simp [start] at ho

lemma Agrees.toKept (h : s.Agrees) (hI : s.handles.Inv) (hfault : s.sys.fault = none) : s.Kept where
  handled := hfault
  kept := hI.toKept
  client := by
    intro p c hp hdestroyed
    obtain ⟨hcount, x, hx, hpx⟩ := h.connected p c hp
    have hnot : ¬ s.sys.Disconnected p := by
      intro hd
      rw [if_pos hd, hdestroyed] at hcount
      exact absurd hcount (by simp)
    have hne : s.sys.client p ≠ 0 := fun h0 => hnot (Or.inl h0)
    have hlive : p ∉ s.sys.freed := fun hmem => hne (if_pos hmem)
    rw [← client_eq hlive, hpx.resolve_left hne]
    exact ⟨hlive, hx⟩

/-- No close fails and the connections to the media server are kept exactly as long as no close
finds a session in the map, no write fails on a connection that is not disconnected, no destructor
fails to disconnect, and no stop disconnects what another one has disconnected. -/
theorem media_kept_iff {as : List ConnectionAction} {t : MediaConnections}
    (hrun : Run.run step start as = some t) :
    Run.Always step Kept start as ↔ Run.Meets step Keeps start as := by
  refine Run.always_iff_meets
    (I := fun s => s.Agrees ∧ s.handles.Inv ∧ s.sys.fault = none)
    (fun s h => h.1.toKept h.2.1 h.2.2) ?_ ?_ ⟨agrees_start, inv_start, rfl⟩ hrun
  · rintro s a s' ⟨h, hI, _⟩ hk hs
    obtain ⟨h', hcond⟩ := h.step hI hk hs
    obtain ⟨sys, hsys, rfl⟩ := Option.map_eq_some_iff.mp hs
    refine ⟨h', hI.step hcond, fault_stepMS hsys ?_⟩
    rintro clihandle rfl
    exact hk
  · rintro s a s' ⟨h, hI, _⟩ hk hs
    exact h.not_kept hI hk hs

/-- A play of `s1`, a packet, and two stops that both find the session. The first one disconnects it
and clears its handle before the second one reads it. -/
def playStopTwice : List ConnectionAction :=
  MediaClose.playS1 ++ [.sendMS 0 [1, 2] (fun _ => 0), .sys (.call (.stop "s1")),
      .sys (.call (.stop "s1")), .sys (.step 1 (.ok 0)), .sys (.step 2 (.ok 0))] ++
    List.replicate 15 (.sys (.step 1 (.ok 0))) ++ List.replicate 5 (.sys (.step 2 (.ok 0))) ++
    [.sys (.destroy 0 0), .sys (.onclose 7)]

/-- The connection is disconnected once. -/
theorem media_kept_stops : Run.Always step Kept start playStopTwice := by
  have hmeets : Run.Meets step Keeps start playStopTwice := by decide
  exact (media_kept_iff rfl).mpr hmeets

end MediaConnections

end DHGateway
