import DHGateway.Core.Run
import DHGateway.Core.Threads
import DHGateway.Session.Interleaving

/-!
# The order of play and stop

The pool takes messages in the order of their arrival and runs up to five of them at once. The
session map ends up as if the messages had been handled one at a time in the order in which their
handlers return; nothing in the pool sees to it that this is the order of their arrival.
-/

namespace DHGateway

open PlaySession

/-! ### One message at a time -/

/-- A message handled alone, by the functions of `sdk_wrap`. -/
def handleMsg (m : SessionMap PlaySession) (c : StreamCall) (a : Answers) :
    SessionMap PlaySession :=
  match c with
  | .start (.real login p) => (startRealStream m a.mem login p a.media a.start).sessions
  | .start (.record login r) => (startPlayBack m a.mem a.netTimes login r a.media a.start).sessions
  | .stop key => (stopPlay m key a.stop).2

structure Answers.Succeed (a : Answers) : Prop where
  connect : a.media.connect.1 = 0
  makeKeyFrame : a.start.makeKeyFrame = true
  realPlay : a.start.realPlayByDataType ≠ 0
  setStreamType : a.start.setStreamType = true
  setRecordType : a.start.setRecordType = true
  playBack : a.start.playBackByDataType ≠ 0
  stop : ∀ k, a.stop.stop k = true
  disconnect : a.stop.disconnect = 0

def StreamCall.key : StreamCall → String
  | .start c => c.streamId
  | .stop key => key

def StreamCall.isStart : StreamCall → Bool
  | .start _ => true
  | .stop _ => false

/-- A stream has a session after a call, given whether it had one before. -/
def StreamCall.After (c : StreamCall) (key : String) (before : Prop) : Prop :=
  if c.key = key then c.isStart = true else before

/-- Whether the last of the calls for a stream is a start. -/
def playing (key : String) (cs : List StreamCall) : Bool :=
  cs.foldl (fun b c => if c.key = key then c.isStart else b) false

lemma playing_concat (cs : List StreamCall) (c : StreamCall) (key : String) :
    playing key (cs ++ [c]) = if c.key = key then c.isStart else playing key cs := by
  rw [playing, List.foldl_append]
  rfl

/-- The tasks that wait, the messages that a worker has taken, in that order, the numbers of those
among them whose handler has returned, in the order of the returns, and the handlers with the
session map. -/
structure Pool where
  queue : List StreamCall
  taken : List StreamCall
  returned : List ℕ
  sys : Sys

inductive PoolAction where
  | arrive (c : StreamCall)
  | take
  | step (i : ℕ) (a : Answers)
  | destroy (p : ℕ) (val : ℤ)

namespace Pool

/-- The number of threads of `sdk_thread`. -/
def threadNum : ℕ := 5

def start : Pool :=
  ⟨[], [], [], Sys.start⟩

def active (s : Pool) : ℕ :=
  (s.sys.threads.filter fun pc => !pc.isDone).length

/-- The number of a handler that has returned. -/
def returns (sys : Sys) (i : ℕ) : List ℕ :=
  if sys.threads[i]?.any Pc.isDone then [i] else []

/-- One step. A worker that is free takes the oldest task. What a handler does before it looks
for the session touches no session, so a thread at its entry stands for all of it. -/
def step (s : Pool) : PoolAction → Option Pool
  | .arrive c => some { s with queue := s.queue ++ [c] }
  | .take =>
    match s.queue with
    | [] => none
    | c :: queue =>
      if s.active < threadNum then
        (s.sys.step (.call c)).map fun sys => ⟨queue, s.taken ++ [c], s.returned, sys⟩
      else none
  | .step i a =>
    (s.sys.step (.step i a)).map fun sys =>
      { s with returned := s.returned ++ returns sys i, sys := sys }
  | .destroy p val => (s.sys.step (.destroy p val)).map fun sys => { s with sys := sys }

/-- The messages in the order in which their handlers have returned. -/
def inReturn (s : Pool) : List StreamCall :=
  s.returned.filterMap fun i => s.taken[i]?

def SdkOk (_ : Pool) : PoolAction → Prop
  | .step _ a => a.Succeed
  | _ => True

/-! ### The invariant -/

def Works (c : StreamCall) (pc : Pc) : Prop :=
  match c with
  | .start c => pc.startKey = some c.streamId
  | .stop key => pc.stopKey = some key

/-- Each message taken has its handler, and the streams with a session are those whose last
message to return is a start. -/
structure Ordered (s : Pool) : Prop where
  length : s.sys.threads.length = s.taken.length
  works : ∀ (i : ℕ) c pc, s.taken[i]? = some c → s.sys.threads[i]? = some pc →
    pc.isDone = true ∨ Works c pc
  nodup : s.returned.Nodup
  done : ∀ i, i ∈ s.returned ↔ ∃ pc, s.sys.threads[i]? = some pc ∧ pc.isDone = true
  sessions : ∀ key, key ∈ s.sys.sessionMap ↔ playing key s.inReturn = true

lemma isDone_iff {pc : Pc} : pc.isDone = true ↔ pc.startKey = none ∧ pc.stopKey = none := by
  cases pc <;> simp [Pc.isDone, Pc.startKey, Pc.stopKey]

lemma isDone_congr {pc pc' : Pc} (hstart : pc'.startKey = pc.startKey)
    (hstop : pc'.stopKey = pc.stopKey) : pc'.isDone = true ↔ pc.isDone = true := by
  rw [isDone_iff, isDone_iff, hstart, hstop]

lemma stopKey_of_startKey {pc : Pc} {key : String} (h : pc.startKey = some key) :
    pc.stopKey = none := by
  cases pc <;> first | rfl | exact absurd h (by simp [Pc.startKey])

lemma not_done_of_works {c : StreamCall} {pc : Pc} (h : Works c pc) : pc.isDone ≠ true := by
  rw [ne_eq, isDone_iff]
  cases c with
  | start c => exact fun hd => absurd (hd.1.symm.trans h) (by simp)
  | stop key => exact fun hd => absurd (hd.2.symm.trans h) (by simp)

lemma works_entry (c : StreamCall) : Works c c.entry := by
  cases c <;> rfl

/-- A start that ends has its session in the map. -/
lemma after_start {m : SessionMap ℕ} {pc : Pc} {key : String} (hkey : pc.startKey = some key)
    {m' : SessionMap ℕ} (hm : ∀ k, k ∈ m' ↔ k = key ∨ k ∈ m) {d : StreamCall} (hd : Works d pc)
    (k : String) : k ∈ m' ↔ d.After k (k ∈ m) := by
  cases d with
  | start c =>
    obtain rfl := Option.some.inj (hkey.symm.trans hd)
    rw [hm, StreamCall.After, StreamCall.key, StreamCall.isStart]
    split_ifs with h
    · exact iff_of_true (Or.inl h.symm) rfl
    · exact or_iff_right fun heq => h heq.symm
  | stop key' => exact absurd ((stopKey_of_startKey hkey).symm.trans hd) (by simp)

/-- A stop that ends leaves no session of its stream. -/
lemma after_stop {m : SessionMap ℕ} {pc : Pc} {key : String} (hkey : pc.stopKey = some key)
    {m' : SessionMap ℕ} (hm : ∀ k, k ∈ m' ↔ k ≠ key ∧ k ∈ m) {d : StreamCall} (hd : Works d pc)
    (k : String) : k ∈ m' ↔ d.After k (k ∈ m) := by
  cases d with
  | start c => exact absurd ((stopKey_of_startKey hd).symm.trans hkey) (by simp)
  | stop key' =>
    obtain rfl := Option.some.inj (hkey.symm.trans hd)
    rw [hm, StreamCall.After, StreamCall.key, StreamCall.isStart]
    split_ifs with h
    · exact iff_of_false (fun hk => hk.1 h.symm) (by simp)
    · exact and_iff_right fun heq => h heq.symm

/-- What a step of a handler does to the streams, all calls of the SDKs succeeding: nothing, or
it ends the handling of its message. -/
lemma advance_cases {s s' : Sys} {a : Answers} {pc pc' : Pc} (ha : a.Succeed)
    (h : s.advance a pc = some (s', pc')) :
    (s'.sessionMap = s.sessionMap ∧ pc'.startKey = pc.startKey ∧ pc'.stopKey = pc.stopKey) ∨
    (pc'.isDone = true ∧
      ∀ d, Works d pc → ∀ k, k ∈ s'.sessionMap ↔ d.After k (k ∈ s.sessionMap)) := by
  cases Sys.advance_move h with
  -- a start of a stream that is there ends without a change
  | @found c q hq =>
    have hmem : c.streamId ∈ s.sessionMap := SessionMap.mem_of_getPlaySession hq
    refine Or.inr ⟨rfl, fun d => after_start rfl fun k => ⟨Or.inr, ?_⟩⟩
    rintro (rfl | hk)
    · exact hmem
    · exact hk
  | alloc _ hpc' =>
    obtain ⟨_, _, hstart, hstop, _⟩ := Pc.of_start hpc'
    exact Or.inl ⟨rfl, hstart, hstop⟩
  | goOn hs hpc _ hpc' =>
    obtain ⟨_, _, hstart, hstop, _⟩ := Pc.of_start hpc
    obtain ⟨_, _, hstart', hstop', _⟩ := Pc.of_start hpc'
    exact Or.inl ⟨hs.sessionMap, hstart'.trans hstart.symm, hstop'.trans hstop.symm⟩
  -- a start fails only where the SDK refuses it
  | giveUp _ _ hfail => simp [ha.setStreamType, ha.setRecordType] at hfail
  | @unplayed c _ _ _ _ h0 =>
    cases c
    · exact absurd h0 ha.realPlay
    · exact absurd h0 ha.playBack
  | played _ => exact Or.inl ⟨rfl, rfl, rfl⟩
  | @inserted c p _ =>
    refine Or.inr ⟨rfl, fun d => after_start rfl fun k => ?_⟩
    exact SessionMap.mem_insertPlaySession _ _ k p
  | @missing key hnone =>
    refine Or.inr ⟨rfl, fun d => after_stop rfl fun k => ⟨fun hk => ⟨?_, hk⟩, And.right⟩⟩
    rintro rfl
    exact SessionMap.getPlaySession_eq_none.mp hnone hk
  | caught _ => exact Or.inl ⟨rfl, rfl, rfl⟩
  | stopOn hs hpc hpc' _ =>
    obtain ⟨_, _, hstart, hstop⟩ := Pc.of_stop hpc
    obtain ⟨_, _, hstart', hstop'⟩ := Pc.of_stop hpc'
    exact Or.inl ⟨hs.sessionMap, hstart'.trans hstart.symm, hstop'.trans hstop.symm⟩
  | stopRead _ => exact Or.inl ⟨rfl, rfl, rfl⟩
  | stopCall => exact Or.inl ⟨rfl, rfl, rfl⟩
  | @stopClear key p k ret _ _ =>
    obtain ⟨_, _, hstart, hstop⟩ := Pc.of_stop (Sys.stop_stopNext key p ret k).1
    exact Or.inl ⟨rfl, hstart, hstop⟩
  | @del key _ _ =>
    exact Or.inr ⟨rfl, fun d => after_stop rfl fun k => SessionMap.mem_delPlaySession _ _ k⟩

lemma returns_set {sys : Sys} {pcs : List Pc} {i : ℕ} {pc pc' : Pc} (hi : pcs[i]? = some pc) :
    returns { sys with threads := pcs.set i pc' } i = if pc'.isDone = true then [i] else [] := by
  rw [returns, List.getElem?_set_self (List.getElem?_eq_some_iff.mp hi).1]
  rfl

/-- A step of a thread adds at most this one to those that have returned. -/
lemma exists_done_set {pcs : List Pc} {i : ℕ} {pc pc' : Pc} (hi : pcs[i]? = some pc)
    (hnot : pc.isDone ≠ true) (j : ℕ) :
    (∃ q, (pcs.set i pc')[j]? = some q ∧ q.isDone = true) ↔
      (∃ q, pcs[j]? = some q ∧ q.isDone = true) ∨ pc'.isDone = true ∧ j = i := by
  by_cases hj : j = i
  · subst hj
    rw [List.getElem?_set_self (List.getElem?_eq_some_iff.mp hi).1]
    simp [hi, hnot]
  · rw [List.getElem?_set_ne (Ne.symm hj)]
    simp [hj]

lemma Ordered.same {s : Pool} {sys : Sys} {i : ℕ} {pc pc' : Pc} (h : s.Ordered)
    (hi : s.sys.threads[i]? = some pc) (hnot : pc.isDone ≠ true)
    (hmap : sys.sessionMap = s.sys.sessionMap)
    (hstart : pc'.startKey = pc.startKey) (hstop : pc'.stopKey = pc.stopKey) :
    Ordered { s with sys := { sys with threads := s.sys.threads.set i pc' } } := by
  have hnot' : pc'.isDone ≠ true := mt (isDone_congr hstart hstop).mp hnot
  refine ⟨(List.length_set ..).trans h.length, ?_, h.nodup, ?_, ?_⟩
  · intro j c q hc hq
    rcases Threads.getElem?_set_cases hq with ⟨rfl, rfl⟩ | ⟨_, hq⟩
    · have hw := (h.works j c pc hc hi).resolve_left hnot
      refine Or.inr ?_
      cases c with
      | start c => exact hstart.trans hw
      | stop key => exact hstop.trans hw
    · exact h.works j c q hc hq
  · intro j
    rw [h.done, exists_done_set hi hnot]
    exact (or_iff_left fun hd => hnot' hd.1).symm
  · intro key
    rw [hmap]
    exact h.sessions key

lemma Ordered.ended {s : Pool} {sys : Sys} {i : ℕ} {pc pc' : Pc} (h : s.Ordered)
    (hi : s.sys.threads[i]? = some pc) (hnot : pc.isDone ≠ true) (hdone : pc'.isDone = true)
    (hmap : ∀ d, Works d pc → ∀ k, k ∈ sys.sessionMap ↔ d.After k (k ∈ s.sys.sessionMap)) :
    Ordered { s with
      returned := s.returned ++ [i]
      sys := { sys with threads := s.sys.threads.set i pc' } } := by
  obtain ⟨d, hd⟩ : ∃ d, s.taken[i]? = some d := by
    have hlt := (List.getElem?_eq_some_iff.mp hi).1
    rw [h.length] at hlt
    exact ⟨_, List.getElem?_eq_getElem hlt⟩
  have hworks : Works d pc := (h.works i d pc hd hi).resolve_left hnot
  have hnew : i ∉ s.returned := by
    rw [h.done, hi]
    rintro ⟨q, hq, hdone⟩
    exact hnot (Option.some.inj hq ▸ hdone)
  refine ⟨(List.length_set ..).trans h.length, ?_, ?_, ?_, ?_⟩
  · intro j c q hc hq
    rcases Threads.getElem?_set_cases hq with ⟨_, rfl⟩ | ⟨_, hq⟩
    · exact Or.inl hdone
    · exact h.works j c q hc hq
  · exact List.nodup_append.mpr ⟨h.nodup, List.nodup_singleton i, by
      rintro a ha b hb rfl
      exact hnew (List.mem_singleton.mp hb ▸ ha)⟩
  · intro j
    rw [List.mem_append, List.mem_singleton, h.done, exists_done_set hi hnot]
    exact or_congr_right (and_iff_right hdone).symm
  · -- the message joins those that have returned, as the last one
    intro key
    have hreturn : (s.returned ++ [i]).filterMap (fun j => s.taken[j]?) = s.inReturn ++ [d] := by
      simp [inReturn, hd]
    rw [hmap d hworks, inReturn, hreturn, playing_concat, StreamCall.After, h.sessions]
    split_ifs
    · exact Iff.rfl
    · exact Iff.rfl

lemma Ordered.take {s : Pool} (h : s.Ordered) (c : StreamCall) (queue : List StreamCall) :
    Ordered ⟨queue, s.taken ++ [c], s.returned,
      { s.sys with threads := s.sys.threads ++ [c.entry] }⟩ := by
  refine ⟨by simp [h.length], ?_, h.nodup, ?_, ?_⟩
  · intro i d q hd hq
    rcases Threads.getElem?_concat_cases hd with ⟨hlt, hd⟩ | ⟨hi, rfl⟩
    · rw [List.getElem?_append_left (h.length ▸ hlt)] at hq
      exact h.works i d q hd hq
    · rw [hi, ← h.length, List.getElem?_concat_length] at hq
      exact Or.inr (Option.some.inj hq ▸ works_entry d)
  · intro i
    rw [h.done]
    constructor
    · rintro ⟨pc, hpc, hdone⟩
      have hlt := (List.getElem?_eq_some_iff.mp hpc).1
      exact ⟨pc, (List.getElem?_append_left hlt).trans hpc, hdone⟩
    · rintro ⟨pc, hpc, hdone⟩
      rcases Threads.getElem?_concat_cases hpc with ⟨_, hpc⟩ | ⟨_, rfl⟩
      · exact ⟨pc, hpc, hdone⟩
      · exact absurd hdone (not_done_of_works (works_entry c))
  · intro key
    have hreturn : s.returned.filterMap (fun i => (s.taken ++ [c])[i]?) = s.inReturn := by
      refine List.filterMap_congr fun i hi => ?_
      obtain ⟨pc, hpc, _⟩ := (h.done i).mp hi
      exact List.getElem?_append_left (h.length ▸ (List.getElem?_eq_some_iff.mp hpc).1)
    rw [inReturn, hreturn]
    exact h.sessions key

/-- Every step keeps the order. -/
theorem Ordered.step {s s' : Pool} {act : PoolAction} (h : s.Ordered) (hok : s.SdkOk act)
    (hs : s.step act = some s') : s'.Ordered := by
  cases act with
  | arrive c =>
    rw [← Option.some.inj hs]
    exact ⟨h.length, h.works, h.nodup, h.done, h.sessions⟩
  | take =>
    simp only [Pool.step] at hs
    split at hs
    · exact absurd hs (by simp)
    · rename_i c queue hq
      split_ifs at hs
      obtain ⟨sys, hsys, rfl⟩ := Option.map_eq_some_iff.mp hs
      rw [← Option.some.inj (Sys.step_eq_some.mp hsys).2]
      exact h.take c queue
  | step i a =>
    obtain ⟨sys, hsys, rfl⟩ := Option.map_eq_some_iff.mp hs
    obtain ⟨pc, t, pc', hi, hadv, rfl⟩ := Sys.next_step (Sys.step_eq_some.mp hsys).2
    have hnot : pc.isDone ≠ true := by
      intro hd
      cases pc <;> simp [Pc.isDone, Sys.advance] at hd hadv
    rw [returns_set hi]
    -- the call goes on, or it ends and does to the map what its message asks
    rcases advance_cases hok hadv with ⟨hmap, hstart, hstop⟩ | ⟨hdone, hmap⟩
    · rw [if_neg (mt (isDone_congr hstart hstop).mp hnot), List.append_nil]
      exact h.same hi hnot hmap hstart hstop
    · rw [if_pos hdone]
      exact h.ended hi hnot hdone hmap
  | destroy p val =>
    obtain ⟨sys, hsys, rfl⟩ := Option.map_eq_some_iff.mp hs
    obtain ⟨session, _, _, _, rfl⟩ := Sys.next_destroy (Sys.step_eq_some.mp hsys).2
    exact ⟨h.length, h.works, h.nodup, h.done, h.sessions⟩

/-! ### Whole runs -/

end Pool

end DHGateway
