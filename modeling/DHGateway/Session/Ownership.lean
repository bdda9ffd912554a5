import DHGateway.Core.Run
import DHGateway.Core.Threads
import DHGateway.Session.Interleaving

/-!
# Who can stop a stream

Every stream that the device has open was opened for one session. As long as that session stays
in the session map, or is on its way into it, the stream can be stopped. What breaks this is a
session that is dropped while its stream is open.
-/

namespace DHGateway

open PlaySession

/-! ### Open streams -/

/-- The session for which the stream `h` of kind `k` was opened, if it has not been stopped
since. -/
def openOwner : List StreamEvent → StreamKind → LLONG → Option ℕ
  | [], _, _ => none
  | .started k' h' p :: log, k, h => if k' = k ∧ h' = h then some p else openOwner log k h
  | .stopped k' h' :: log, k, h => if k' = k ∧ h' = h then none else openOwner log k h

/-- The stream `h` of kind `k` was opened and no call to stop it was made. -/
def IsOpen (log : List StreamEvent) (k : StreamKind) (h : LLONG) : Prop :=
  openOwner log k h ≠ none

instance (log : List StreamEvent) (k : StreamKind) (h : LLONG) : Decidable (IsOpen log k h) := by
  unfold IsOpen; infer_instance

lemma IsOpen.of_owner {log : List StreamEvent} {k : StreamKind} {h : LLONG} {p : ℕ}
    (hp : openOwner log k h = some p) : IsOpen log k h := by
  rw [IsOpen, hp]
  exact Option.some_ne_none p

lemma openOwner_started {log : List StreamEvent} {k k' : StreamKind} {h h' : LLONG} {p q : ℕ}
    (hq : openOwner (.started k' h' p :: log) k h = some q) :
    k' = k ∧ h' = h ∧ p = q ∨ openOwner log k h = some q := by
  rw [openOwner] at hq
  split_ifs at hq with heq
  · exact Or.inl ⟨heq.1, heq.2, Option.some.inj hq⟩
  · exact Or.inr hq

lemma openOwner_stopped {log : List StreamEvent} {k k' : StreamKind} {h h' : LLONG} {q : ℕ}
    (hq : openOwner (.stopped k' h' :: log) k h = some q) :
    ¬ (k' = k ∧ h' = h) ∧ openOwner log k h = some q := by
  rw [openOwner] at hq
  split_ifs at hq with heq
  exact ⟨heq, hq⟩

namespace Sys

/-- The stream is that of a session in the map, which is alive. -/
def InMap (s : Sys) (k : StreamKind) (h : LLONG) : Prop :=
  ∃ key p, s.sessionMap.getPlaySession key = some p ∧ p ∉ s.freed ∧ s.handleOf p k = some h

lemma inMap_iff {s : Sys} {k : StreamKind} {h : LLONG} :
    s.InMap k h ↔ ∃ e ∈ s.sessionMap.entries, e.2 ∉ s.freed ∧ s.handleOf e.2 k = some h := by
  constructor
  · rintro ⟨key, p, hkey, hp⟩
    exact ⟨⟨key, p⟩, AList.mem_lookup_iff.mp hkey, hp⟩
  · rintro ⟨⟨key, p⟩, he, hp⟩
    exact ⟨key, p, AList.mem_lookup_iff.mpr he, hp⟩

instance (s : Sys) (k : StreamKind) (h : LLONG) : Decidable (s.InMap k h) :=
  decidable_of_iff _ inMap_iff.symm

/-- None of the handles of the session at `p` is an open stream. -/
def StreamsStopped (s : Sys) (p : ℕ) : Prop :=
  ∀ k h, s.handleOf p k = some h → ¬ IsOpen s.log k h

/-- No step drops a session whose stream is open: an insert finds its key free or its stream not
open, and what `DelPlaySession` erases has been stopped. A close finds no session, since the loop
over the map fails where it erases one. -/
def Keeps (s : Sys) : Action → Prop
  | .step i _ =>
    match s.threads[i]? with
    | some (.insert c p) => c.streamId ∉ s.sessionMap ∨ s.StreamsStopped p
    | some (.del key _ _) => ∀ p, s.sessionMap.getPlaySession key = some p → s.StreamsStopped p
    | _ => True
  | .onclose clihandle => ¬ s.HasClihandle clihandle
  | _ => True

/-! ### Pointers -/

/-- Pointers lead to live sessions, and a session that is being started is known to its thread
only. -/
structure Pointers (s : Sys) : Prop where
  held : ∀ pc ∈ s.threads, ∀ p, pc.held = some p → p < s.heap.length ∧ p ∉ s.freed
  mapped : ∀ key p, s.sessionMap.getPlaySession key = some p → p < s.heap.length ∧ p ∉ s.freed
  freed : ∀ p ∈ s.freed, p < s.heap.length
  unmapped : ∀ pc ∈ s.threads, ∀ p, pc.starting = some p →
    ∀ key, s.sessionMap.getPlaySession key ≠ some p
  alone : ∀ (i j : ℕ) (pc pc' : Pc) (p : ℕ), s.threads[i]? = some pc → s.threads[j]? = some pc' →
    pc.starting = some p → pc'.held = some p → i = j

lemma starting_held {pc : Pc} {p : ℕ} (h : pc.starting = some p) : pc.held = some p := by
  cases pc <;> first | exact h | exact absurd h (by simp [Pc.starting])

lemma Pointers.move {s s' : Sys} {i : ℕ} {pc pc' : Pc} (h : s.Pointers)
    (hi : s.threads[i]? = some pc) (hlen : s'.heap.length = s.heap.length)
    (hfreed : s'.freed = s.freed)
    (hmap : ∀ key p, s'.sessionMap.getPlaySession key = some p →
      s.sessionMap.getPlaySession key = some p)
    (hheld : ∀ p, pc'.held = some p → pc.held = some p)
    (hstarting : ∀ p, pc'.starting = some p → pc.starting = some p) :
    Pointers { s' with threads := s.threads.set i pc' } := by
  have hmem : pc ∈ s.threads := List.mem_of_getElem? hi
  have hset : ∀ q ∈ s.threads.set i pc', q = pc' ∨ q ∈ s.threads := fun q hq =>
    (List.mem_or_eq_of_mem_set hq).symm
  constructor
  · intro q hq p hp
    simp only [hlen, hfreed]
    rcases hset q hq with rfl | hq
    · exact h.held pc hmem p (hheld p hp)
    · exact h.held q hq p hp
  · intro key p hp
    simp only [hlen, hfreed]
    exact h.mapped key p (hmap key p hp)
  · simp only [hlen, hfreed]
    exact h.freed
  · intro q hq p hp key hkey
    rcases hset q hq with rfl | hq
    · exact h.unmapped pc hmem p (hstarting p hp) key (hmap key p hkey)
    · exact h.unmapped q hq p hp key (hmap key p hkey)
  · intro a b q q' p ha hb hq hq'
    have back : ∀ {x : ℕ} {r : Pc}, (s.threads.set i pc')[x]? = some r →
        ∃ r₀, s.threads[x]? = some r₀ ∧ (∀ p, r.held = some p → r₀.held = some p) ∧
          ∀ p, r.starting = some p → r₀.starting = some p := by
      intro x r hx
      rcases Threads.getElem?_set_cases hx with ⟨rfl, rfl⟩ | ⟨_, hx⟩
      · exact ⟨pc, hi, hheld, hstarting⟩
      · exact ⟨r, hx, fun _ => id, fun _ => id⟩
    obtain ⟨qa, hqa, _, hsa⟩ := back ha
    obtain ⟨qb, hqb, hhb, _⟩ := back hb
    exact h.alone a b qa qb p hqa hqb (hsa p hq) (hhb p hq')

lemma Pointers.alloc {s : Sys} {i : ℕ} {pc pc' : Pc} (h : s.Pointers)
    (hi : s.threads[i]? = some pc) (session : PlaySession)
    (hheld : pc'.held = some s.heap.length) :
    Pointers { s with heap := s.heap ++ [session], threads := s.threads.set i pc' } := by
  have hset : ∀ q ∈ s.threads.set i pc', q = pc' ∨ q ∈ s.threads := fun q hq =>
    (List.mem_or_eq_of_mem_set hq).symm
  have hfresh : s.heap.length ∉ s.freed := fun hf => absurd (h.freed _ hf) (lt_irrefl _)
  have hlen : (s.heap ++ [session]).length = s.heap.length + 1 := by simp
  constructor
  · intro q hq p hp
    simp only [hlen]
    rcases hset q hq with rfl | hq
    · obtain rfl : s.heap.length = p := Option.some.inj (hheld.symm.trans hp)
      exact ⟨Nat.lt_succ_self _, hfresh⟩
    · obtain ⟨hlt, hf⟩ := h.held q hq p hp
      exact ⟨Nat.lt_succ_of_lt hlt, hf⟩
  · intro key p hp
    simp only [hlen]
    obtain ⟨hlt, hf⟩ := h.mapped key p hp
    exact ⟨Nat.lt_succ_of_lt hlt, hf⟩
  · intro p hp
    simp only [hlen]
    exact Nat.lt_succ_of_lt (h.freed p hp)
  · intro q hq p hp key hkey
    rcases hset q hq with rfl | hq
    · have hlt := (h.mapped key p hkey).1
      rw [Option.some.inj ((starting_held hp).symm.trans hheld)] at hlt
      exact lt_irrefl _ hlt
    · exact h.unmapped q hq p hp key hkey
  · intro a b q q' p ha hb hq hq'
    rcases Threads.getElem?_set_cases ha with ⟨rfl, rfl⟩ | ⟨_, ha₀⟩
    · rcases Threads.getElem?_set_cases hb with ⟨rfl, _⟩ | ⟨_, hb⟩
      · rfl
      · have hlt := (h.held q' (List.mem_of_getElem? hb) p hq').1
        rw [Option.some.inj ((starting_held hq).symm.trans hheld)] at hlt
        exact absurd hlt (lt_irrefl _)
    · rcases Threads.getElem?_set_cases hb with ⟨rfl, rfl⟩ | ⟨_, hb⟩
      · have hlt := (h.held q (List.mem_of_getElem? ha₀) p (starting_held hq)).1
        rw [Option.some.inj (hq'.symm.trans hheld)] at hlt
        exact absurd hlt (lt_irrefl _)
      · exact h.alone a b q q' p ha₀ hb hq hq'

lemma Pointers.find {s : Sys} {i : ℕ} {pc pc' : Pc} {key : String} {p : ℕ} (h : s.Pointers)
    (hi : s.threads[i]? = some pc) (hkey : s.sessionMap.getPlaySession key = some p)
    (hheld : pc'.held = some p) (hstarting : pc'.starting = none) :
    Pointers { s with threads := s.threads.set i pc' } := by
  have hset : ∀ q ∈ s.threads.set i pc', q = pc' ∨ q ∈ s.threads := fun q hq =>
    (List.mem_or_eq_of_mem_set hq).symm
  refine ⟨?_, h.mapped, h.freed, ?_, ?_⟩
  · intro q hq r hr
    rcases hset q hq with rfl | hq
    · rw [← Option.some.inj (hheld.symm.trans hr)]
      exact h.mapped key p hkey
    · exact h.held q hq r hr
  · intro q hq r hr
    rcases hset q hq with rfl | hq
    · exact absurd (hstarting.symm.trans hr) (by simp)
    · exact h.unmapped q hq r hr
  · intro a b q q' r ha hb hq hq'
    rcases Threads.getElem?_set_cases ha with ⟨rfl, rfl⟩ | ⟨_, ha₀⟩
    · exact absurd (hstarting.symm.trans hq) (by simp)
    · rcases Threads.getElem?_set_cases hb with ⟨rfl, rfl⟩ | ⟨_, hb⟩
      · -- what is being started is not in the map
        rw [← Option.some.inj (hheld.symm.trans hq')] at hq
        exact absurd hkey (h.unmapped q (List.mem_of_getElem? ha₀) p hq key)
      · exact h.alone a b q q' r ha₀ hb hq hq'

lemma Pointers.insert {s : Sys} {i : ℕ} {c : StartCall} {p : ℕ} {ret : ℤ} (h : s.Pointers)
    (hi : s.threads[i]? = some (.insert c p)) :
    Pointers { s with
      sessionMap := (s.sessionMap.insertPlaySession c.streamId p).2
      threads := s.threads.set i (.done ret) } := by
  have hset : ∀ q ∈ s.threads.set i (.done ret), q = .done ret ∨ q ∈ s.threads := fun q hq =>
    (List.mem_or_eq_of_mem_set hq).symm
  -- the insertion adds its own session, or keeps the entry that is there
  have hget : ∀ key q, (s.sessionMap.insertPlaySession c.streamId p).2.getPlaySession key = some q →
      q = p ∨ s.sessionMap.getPlaySession key = some q := by
    intro key q hq
    by_cases hmem : c.streamId ∈ s.sessionMap
    · rw [SessionMap.insertPlaySession_of_mem p hmem] at hq
      exact Or.inr hq
    · by_cases hkey : key = c.streamId
      · rw [hkey, SessionMap.getPlaySession_insert_self _ _ hmem] at hq
        exact Or.inl (Option.some.inj hq).symm
      · rw [SessionMap.getPlaySession_insert_ne _ _ hkey] at hq
        exact Or.inr hq
  refine ⟨?_, ?_, h.freed, ?_, ?_⟩
  · intro q hq r hr
    rcases hset q hq with rfl | hq
    · exact absurd hr (by simp [Pc.held])
    · exact h.held q hq r hr
  · intro key q hq
    rcases hget key q hq with rfl | hq
    · exact h.held _ (List.mem_of_getElem? hi) q rfl
    · exact h.mapped key q hq
  · intro q hq r hr key hkey
    obtain ⟨j, hj⟩ := List.getElem?_of_mem hq
    rcases Threads.getElem?_set_cases hj with ⟨_, rfl⟩ | ⟨hji, hj₀⟩
    · exact absurd hr (by simp [Pc.starting])
    · -- the thread that starts the session is the one that inserts it
      rcases hget key r hkey with rfl | hkey
      · exact hji (h.alone j i q _ r hj₀ hi hr rfl)
      · exact h.unmapped q (List.mem_of_getElem? hj₀) r hr key hkey
  · intro a b q q' r ha hb hq hq'
    rcases Threads.getElem?_set_cases ha with ⟨rfl, rfl⟩ | ⟨_, ha⟩
    · exact absurd hq (by simp [Pc.starting])
    · rcases Threads.getElem?_set_cases hb with ⟨rfl, rfl⟩ | ⟨_, hb⟩
      · exact absurd hq' (by simp [Pc.held])
      · exact h.alone a b q q' r ha hb hq hq'

lemma starting_started {c : StartCall} {p q : ℕ} {ret : ℤ}
    (h : (c.started p ret).held = some q) : (Pc.insert c p).starting = some q := by
  rw [StartCall.started] at h
  split_ifs at h
  · exact absurd h (by simp [Pc.held])
  · exact h

lemma Pointers.advance {s s' : Sys} {a : Answers} {i : ℕ} {pc pc' : Pc} (h : s.Pointers)
    (hi : s.threads[i]? = some pc) (hadv : s.advance a pc = some (s', pc')) :
    Pointers { s' with threads := s.threads.set i pc' } := by
  cases advance_move hadv with
  | found _ => exact h.move hi rfl rfl (fun _ _ => id) (by simp [Pc.held]) (by simp [Pc.starting])
  | alloc _ hpc' => exact h.alloc hi _ (Pc.of_start hpc').1
  | goOn hs hpc _ hpc' =>
    obtain ⟨hheld, hstarting, _⟩ := Pc.of_start hpc
    obtain ⟨hheld', hstarting', _⟩ := Pc.of_start hpc'
    refine h.move hi hs.length hs.freed ?_ ?_ ?_
    · rw [hs.sessionMap]
      exact fun _ _ => id
    · rw [hheld, hheld']
      exact fun _ => id
    · rw [hstarting, hstarting']
      exact fun _ => id
  | giveUp _ _ _ =>
    exact h.move hi rfl rfl (fun _ _ => id) (by simp [Pc.held]) (by simp [Pc.starting])
  | unplayed _ _ =>
    exact h.move hi (store_length _ _ _) rfl (fun _ _ => id) (fun _ hq => starting_started hq)
      (fun _ hq => starting_started (starting_held hq))
  | played _ => exact h.move hi (store_length _ _ _) rfl (fun _ _ => id) (fun _ => id) (fun _ => id)
  | inserted => exact h.insert hi
  | missing _ =>
    exact h.move hi rfl rfl (fun _ _ => id) (by simp [Pc.held]) (by simp [Pc.starting])
  | caught hkey => exact h.find hi hkey rfl rfl
  | stopOn hs hpc hpc' _ =>
    obtain ⟨hheld, _⟩ := Pc.of_stop hpc
    obtain ⟨hheld', hstarting', _⟩ := Pc.of_stop hpc'
    refine h.move hi hs.length hs.freed ?_ ?_ ?_
    · rw [hs.sessionMap]
      exact fun _ _ => id
    · rw [hheld, hheld']
      exact fun _ => id
    · rw [hstarting']
      exact fun _ hq => absurd hq (by simp)
  | stopRead _ => exact h.move hi rfl rfl (fun _ _ => id) (fun _ => id) (by simp [Pc.starting])
  | stopCall => exact h.move hi rfl rfl (fun _ _ => id) (fun _ => id) (by simp [Pc.starting])
  | stopClear _ =>
    obtain ⟨hstop, _⟩ := stop_stopNext _ _ _ _
    obtain ⟨hheld, hstarting, _⟩ := Pc.of_stop hstop
    refine h.move hi (store_length _ _ _) rfl (fun _ _ => id) ?_ ?_
    · rw [hheld]
      exact fun _ => id
    · rw [hstarting]
      exact fun _ hq => absurd hq (by simp)
  | del =>
    refine h.move hi rfl rfl ?_ (by simp [Pc.held]) (by simp [Pc.starting])
    exact fun k q hq => SessionMap.getPlaySession_of_del hq

lemma entry_held (c : StreamCall) : c.entry.held = none := by
  cases c <;> rfl

lemma Pointers.call {s : Sys} (h : s.Pointers) (c : StreamCall) :
    Pointers { s with threads := s.threads ++ [c.entry] } := by
  have hnone : ∀ p, c.entry.held ≠ some p := by simp [entry_held]
  have hold : ∀ {j : ℕ} {q : Pc} {p : ℕ}, (s.threads ++ [c.entry])[j]? = some q →
      q.held = some p → s.threads[j]? = some q := by
    intro j q p hj hq
    rw [List.getElem?_append] at hj
    split_ifs at hj with hlt
    · exact hj
    · have hmem := List.mem_of_getElem? hj
      rw [List.mem_singleton] at hmem
      exact absurd (hmem ▸ hq) (hnone p)
  have hmem : ∀ q ∈ s.threads ++ [c.entry], ∀ p, q.held = some p → q ∈ s.threads := by
    intro q hq p hp
    obtain ⟨j, hj⟩ := List.getElem?_of_mem hq
    exact List.mem_of_getElem? (hold hj hp)
  refine ⟨?_, h.mapped, h.freed, ?_, ?_⟩
  · exact fun q hq p hp => h.held q (hmem q hq p hp) p hp
  · exact fun q hq p hp => h.unmapped q (hmem q hq p (starting_held hp)) p hp
  · exact fun a b q q' p ha hb hq hq' =>
      h.alone a b q q' p (hold ha (starting_held hq)) (hold hb hq') hq hq'

/-- The pointers are in order in every state. -/
theorem Pointers.step {s s' : Sys} {act : Action} (h : s.Pointers)
    (hs : s.step act = some s') : s'.Pointers := by
  replace hs := (step_eq_some.mp hs).2
  cases act with
  | call c =>
    rw [← Option.some.inj hs]
    exact h.call c
  | step i a =>
    obtain ⟨pc, t, pc', hi, hadv, rfl⟩ := next_step hs
    exact h.advance hi hadv
  | onclose clihandle =>
    rcases next_onclose hs with ⟨_, rfl⟩ | ⟨_, rfl⟩
    · exact h
    · exact ⟨h.held, h.mapped, h.freed, h.unmapped, h.alone⟩
  -- neither the map nor a thread points to what is destroyed
  | destroy p val =>
    obtain ⟨session, hp, _, ⟨hmap, hthreads⟩, rfl⟩ := next_destroy hs
    refine ⟨?_, ?_, ?_, h.unmapped, h.alone⟩
    · intro pc hpc q hq
      obtain ⟨hlt, hf⟩ := h.held pc hpc q hq
      refine ⟨by simpa using hlt, ?_⟩
      rw [List.mem_cons]
      rintro (rfl | hmem)
      · exact hthreads pc hpc hq
      · exact hf hmem
    · intro key q hq
      obtain ⟨hlt, hf⟩ := h.mapped key q hq
      refine ⟨by simpa using hlt, ?_⟩
      rw [List.mem_cons]
      rintro (rfl | hmem)
      · exact hmap _ (AList.mem_lookup_iff.mp hq) rfl
      · exact hf hmem
    · intro q hq
      simp only [store_length]
      rcases List.mem_cons.mp hq with rfl | hq
      · exact (List.getElem?_eq_some_iff.mp hp).1
      · exact h.freed q hq

/-! ### Owners -/

/-- The owner of an open stream has its handle and is in the map or about to be put there, and a
thread that stops a stream stops the one it read. -/
structure Owners (s : Sys) : Prop where
  owner : ∀ k h p, openOwner s.log k h = some p → s.handleOf p k = some h ∧
    ((∃ key, s.sessionMap.getPlaySession key = some p) ∨ ∃ c, Pc.insert c p ∈ s.threads)
  call : ∀ key p k h ret, Pc.stopCall key p k h ret ∈ s.threads →
    ∀ h', openOwner s.log k h' = some p → h' = h
  clear : ∀ key p k ret, Pc.stopClear key p k ret ∈ s.threads →
    ∀ h, openOwner s.log k h ≠ some p

lemma handleOf_alloc {s : Sys} {p : ℕ} {k : StreamKind} {h : LLONG} (session : PlaySession)
    (hp : s.handleOf p k = some h) :
    Sys.handleOf { s with heap := s.heap ++ [session] } p k = some h := by
  obtain ⟨x, hx, rfl⟩ := Option.map_eq_some_iff.mp hp
  have hlt : p < s.heap.length := (List.getElem?_eq_some_iff.mp hx).1
  rw [handleOf, List.getElem?_append_left hlt, hx, Option.map_some]

/-- A session that is being started owns no stream before it is played. -/
lemma Owners.not_owner {s : Sys} (ho : s.Owners) (h : s.Pointers) {i : ℕ} {pc : Pc} {p : ℕ}
    (hi : s.threads[i]? = some pc) (hp : pc.starting = some p) (hpc : ∀ c, pc ≠ .insert c p)
    (k : StreamKind) (x : LLONG) : openOwner s.log k x ≠ some p := by
  intro hopen
  rcases (ho.owner k x p hopen).2 with ⟨key, hkey⟩ | ⟨c, hc⟩
  · exact h.unmapped pc (List.mem_of_getElem? hi) p hp key hkey
  · obtain ⟨j, hj⟩ := List.getElem?_of_mem hc
    obtain rfl := h.alone i j pc _ p hi hj hp rfl
    exact hpc c (Option.some.inj (hi.symm.trans hj))

lemma Owners.not_owner_of_stopped {s : Sys} (ho : s.Owners) {p : ℕ} (hp : s.StreamsStopped p)
    (k : StreamKind) (h : LLONG) : openOwner s.log k h ≠ some p :=
  fun hopen => hp k h (ho.owner k h p hopen).1 (IsOpen.of_owner hopen)

/-- A step that opens and stops nothing, and after which every owner of an open stream still has
its handle and its place. -/
lemma Owners.move {s t : Sys} {i : ℕ} {pc' : Pc} (ho : s.Owners)
    (hlog : t.log = s.log)
    (howner : ∀ k h p, openOwner s.log k h = some p → s.handleOf p k = some h →
      t.handleOf p k = some h)
    (hplace : ∀ k h p, openOwner s.log k h = some p →
      ((∃ key, s.sessionMap.getPlaySession key = some p) ∨ ∃ c, Pc.insert c p ∈ s.threads) →
      (∃ key, t.sessionMap.getPlaySession key = some p) ∨
        ∃ c, Pc.insert c p ∈ s.threads.set i pc')
    (hcall : ∀ key p k h ret, pc' = .stopCall key p k h ret →
      ∀ h', openOwner s.log k h' = some p → h' = h)
    (hclear : ∀ key p k ret, pc' = .stopClear key p k ret →
      ∀ h, openOwner s.log k h ≠ some p) :
    Owners { t with threads := s.threads.set i pc' } := by
  constructor
  · simp only [hlog]
    intro k h p hopen
    obtain ⟨hh, hp⟩ := ho.owner k h p hopen
    exact ⟨howner k h p hopen hh, hplace k h p hopen hp⟩
  · simp only [hlog]
    intro key p k h ret hmem
    rcases List.mem_or_eq_of_mem_set hmem with hmem | heq
    · exact ho.call key p k h ret hmem
    · exact hcall key p k h ret heq.symm
  · simp only [hlog]
    intro key p k ret hmem
    rcases List.mem_or_eq_of_mem_set hmem with hmem | heq
    · exact ho.clear key p k ret hmem
    · exact hclear key p k ret heq.symm

/-- A step that changes neither the handles nor the map, of a thread that is not inserting and
is not stopping a stream next. -/
lemma Owners.quiet {s s' : Sys} {i : ℕ} {pc pc' : Pc} (ho : s.Owners)
    (hi : s.threads[i]? = some pc) (hpc : ∀ c p, pc ≠ .insert c p) (hlog : s'.log = s.log)
    (hhandle : ∀ k p, s'.handleOf p k = s.handleOf p k) (hmap : s'.sessionMap = s.sessionMap)
    (hcalm : pc'.atStream = false) : Owners { s' with threads := s.threads.set i pc' } := by
  refine ho.move hlog ?_ ?_ ?_ ?_
  · intro k h p _ hp
    rw [hhandle k p, hp]
  · rintro k h p _ (hkey | ⟨c, hc⟩)
    · exact Or.inl (hmap ▸ hkey)
    · exact Or.inr ⟨c, Threads.mem_set_of_ne hi hc fun heq => hpc c p heq.symm⟩
  · rintro key p k h ret rfl
    exact absurd hcalm (by simp [Pc.atStream])
  · rintro key p k ret rfl
    exact absurd hcalm (by simp [Pc.atStream])

lemma Owners.play {s : Sys} {i : ℕ} {c : StartCall} {p : ℕ} {session : PlaySession} {x : LLONG}
    (ho : s.Owners) (h : s.Pointers) (hi : s.threads[i]? = some (.play c p))
    (hp : s.heap[p]? = some session) :
    Owners { s.store p (c.played session x) with
      log := .started c.kind x p :: s.log
      threads := s.threads.set i (.insert c p) } := by
  have hno := ho.not_owner h hi rfl (by simp)
  have hself : (c.played session x).handle c.kind = x := by
    cases c with
    | real login realPlay => rfl
    | record login record =>
      simp only [StartCall.played]
      split_ifs <;> rfl
  -- no other thread holds the session that is being started
  have hother : ∀ q ∈ s.threads.set i (.insert c p), q = .insert c p ∨
      q ∈ s.threads ∧ (q.held = some p → False) := by
    intro q hq
    obtain ⟨j, hj⟩ := List.getElem?_of_mem hq
    rcases Threads.getElem?_set_cases hj with ⟨_, rfl⟩ | ⟨hji, hj₀⟩
    · exact Or.inl rfl
    · exact Or.inr ⟨List.mem_of_getElem? hj₀, fun hq => hji (h.alone i j _ q p hi hj₀ rfl hq).symm⟩
  constructor
  · intro k y q hopen
    rcases openOwner_started hopen with ⟨rfl, rfl, rfl⟩ | hopen
    · refine ⟨?_, Or.inr ⟨c, ?_⟩⟩
      · exact (handleOf_store_self hp _ _).trans (congrArg some hself)
      · exact Threads.mem_set_self _ hi
    · have hne : q ≠ p := fun hqp => hno k y (hqp ▸ hopen)
      obtain ⟨hh, hplace⟩ := ho.owner k y q hopen
      refine ⟨(handleOf_store_ne s _ k hne).trans hh, ?_⟩
      rcases hplace with hkey | ⟨c', hc'⟩
      · exact Or.inl hkey
      · exact Or.inr ⟨c', Threads.mem_set_of_ne hi hc' (by simp)⟩
  · intro key q k y ret hmem y' hopen
    rcases hother _ hmem with heq | ⟨hmem, hheld⟩
    · exact absurd heq (by simp)
    · rcases openOwner_started hopen with ⟨_, _, rfl⟩ | hopen
      · exact (hheld rfl).elim
      · exact ho.call key q k y ret hmem y' hopen
  · intro key q k ret hmem y hopen
    rcases hother _ hmem with heq | ⟨hmem, hheld⟩
    · exact absurd heq (by simp)
    · rcases openOwner_started hopen with ⟨_, _, rfl⟩ | hopen
      · exact hheld rfl
      · exact ho.clear key q k ret hmem y hopen

lemma Owners.insert {s : Sys} {i : ℕ} {c : StartCall} {p : ℕ} {ret : ℤ} (ho : s.Owners)
    (hi : s.threads[i]? = some (.insert c p))
    (hk : c.streamId ∉ s.sessionMap ∨ s.StreamsStopped p) :
    Owners { s with
      sessionMap := (s.sessionMap.insertPlaySession c.streamId p).2
      threads := s.threads.set i (.done ret) } := by
  refine ho.move (t := { s with
    sessionMap := (s.sessionMap.insertPlaySession c.streamId p).2 }) rfl (fun _ _ _ _ => id) ?_
    (by simp) (by simp)
  intro k h q hopen hplace
  rcases hplace with ⟨key, hkey⟩ | ⟨c', hc'⟩
  · -- an entry of the map is not overwritten
    refine Or.inl ⟨key, ?_⟩
    by_cases hmem : c.streamId ∈ s.sessionMap
    · rw [SessionMap.insertPlaySession_of_mem p hmem]
      exact hkey
    · rw [SessionMap.getPlaySession_insert_ne, hkey]
      rintro rfl
      rw [SessionMap.getPlaySession_eq_none.mpr hmem] at hkey
      exact absurd hkey (by simp)
  · by_cases heq : Pc.insert c' q = .insert c p
    · obtain ⟨rfl, rfl⟩ := Pc.insert.inj heq
      rcases hk with hk | hk
      · exact Or.inl ⟨c'.streamId, SessionMap.getPlaySession_insert_self _ _ hk⟩
      · exact absurd hopen (ho.not_owner_of_stopped hk k h)
    · exact Or.inr ⟨c', Threads.mem_set_of_ne hi hc' heq⟩

lemma Owners.stopCall {s : Sys} {i : ℕ} {key : String} {p : ℕ} {k : StreamKind} {x : LLONG}
    {ret ret' : ℤ} (ho : s.Owners) (hi : s.threads[i]? = some (.stopCall key p k x ret)) :
    Owners { s with
      log := .stopped k x :: s.log
      threads := s.threads.set i (.stopClear key p k ret') } := by
  have hmem := List.mem_of_getElem? hi
  constructor
  · intro k' y q hopen
    obtain ⟨hh, hplace⟩ := ho.owner k' y q (openOwner_stopped hopen).2
    refine ⟨hh, ?_⟩
    rcases hplace with hkey | ⟨c, hc⟩
    · exact Or.inl hkey
    · exact Or.inr ⟨c, Threads.mem_set_of_ne hi hc (by simp)⟩
  · intro key' q k' y r hq y' hopen
    rcases List.mem_or_eq_of_mem_set hq with hq | heq
    · exact ho.call key' q k' y r hq y' (openOwner_stopped hopen).2
    · exact absurd heq (by simp)
  · intro key' q k' r hq y hopen
    obtain ⟨hne, hold⟩ := openOwner_stopped hopen
    rcases List.mem_or_eq_of_mem_set hq with hq | heq
    · exact ho.clear key' q k' r hq y hold
    · -- the stopped stream was the only one of its kind that the session owned
      obtain ⟨_, rfl, rfl, _⟩ := Pc.stopClear.inj heq
      exact hne ⟨rfl, (ho.call key q k' x ret hmem y hold).symm⟩

lemma Owners.stopClear {s : Sys} {i : ℕ} {key : String} {p : ℕ} {k : StreamKind} {ret ret' : ℤ}
    {session : PlaySession} (ho : s.Owners)
    (hi : s.threads[i]? = some (.stopClear key p k ret)) (hp : s.heap[p]? = some session) :
    Owners { s.store p (session.clearHandle k) with
      threads := s.threads.set i (.stopNext key p ret' k) } := by
  refine ho.move (t := s.store p (session.clearHandle k)) rfl ?_ ?_ ?_ ?_
  · intro k' y q hopen hq
    by_cases hqp : q = p
    · subst hqp
      -- the stream whose member is cleared is stopped already
      have hne : k' ≠ k := by
        rintro rfl
        exact ho.clear key q k' ret (List.mem_of_getElem? hi) y hopen
      rw [handleOf_store_self hp, handle_clearHandle_ne session hne, ← handleOf_of_getElem? hp, hq]
    · rw [handleOf_store_ne s _ k' hqp, hq]
  · rintro k' y q _ (hkey | ⟨c, hc⟩)
    · exact Or.inl hkey
    · exact Or.inr ⟨c, Threads.mem_set_of_ne hi hc (by simp)⟩
  · intro _ _ _ _ _ heq
    cases k <;> exact absurd heq (by simp [Pc.stopNext])
  · intro _ _ _ _ heq
    cases k <;> exact absurd heq (by simp [Pc.stopNext])

lemma Owners.erase {s : Sys} {m : SessionMap ℕ} (ho : s.Owners)
    (hm : ∀ key p, s.sessionMap.getPlaySession key = some p →
      m.getPlaySession key = some p ∨ s.StreamsStopped p) :
    Owners { s with sessionMap := m } := by
  refine ⟨?_, ho.call, ho.clear⟩
  intro k h p hopen
  obtain ⟨hh, hplace⟩ := ho.owner k h p hopen
  refine ⟨hh, ?_⟩
  rcases hplace with ⟨key, hkey⟩ | hc
  · rcases hm key p hkey with hkey | hstop
    · exact Or.inl ⟨key, hkey⟩
    · exact absurd hopen (ho.not_owner_of_stopped hstop k h)
  · exact Or.inr hc

/-- Every step of a thread that drops no session with an open stream keeps the owners. -/
lemma Owners.advance {s s' : Sys} {a : Answers} {i : ℕ} {pc pc' : Pc} (ho : s.Owners)
    (h : s.Pointers) (hi : s.threads[i]? = some pc) (hk : s.Keeps (.step i a))
    (hadv : s.advance a pc = some (s', pc')) :
    Owners { s' with threads := s.threads.set i pc' } := by
  cases advance_move hadv with
  | found _ => exact ho.quiet hi (by simp) rfl (fun _ _ => rfl) rfl rfl
  | alloc _ hpc' =>
    have hcalm := (Pc.of_start hpc').2.2.2.2
    refine ho.move (t := { s with heap := s.heap ++ [_] }) rfl
      (fun _ _ _ _ => handleOf_alloc _) ?_ ?_ ?_
    · rintro k x q _ (hkey | ⟨c', hc'⟩)
      · exact Or.inl hkey
      · exact Or.inr ⟨c', Threads.mem_set_of_ne hi hc' (by simp)⟩
    · rintro key q k x ret rfl
      exact absurd hcalm (by simp [Pc.atStream])
    · rintro key q k ret rfl
      exact absurd hcalm (by simp [Pc.atStream])
  | goOn hs hpc hne hpc' =>
    refine ho.quiet hi ?_ hs.log hs.handle hs.sessionMap (Pc.of_start hpc').2.2.2.2
    rintro c' p' rfl
    obtain ⟨rfl, rfl⟩ := Prod.mk.inj (Option.some.inj hpc)
    exact hne rfl
  | giveUp hpc hne _ =>
    refine ho.quiet hi ?_ rfl (fun _ _ => rfl) rfl rfl
    rintro c' p' rfl
    obtain ⟨rfl, rfl⟩ := Prod.mk.inj (Option.some.inj hpc)
    exact hne rfl
  | @unplayed c p session ret hp _ =>
    refine ho.move (t := s.store p _) rfl ?_ ?_ ?_ ?_
    · intro k x q hopen hq
      have hne : q ≠ p := fun hqp => ho.not_owner h hi rfl (by simp) k x (hqp ▸ hopen)
      rw [handleOf_store_ne s _ k hne, hq]
    · rintro k x q _ (hkey | ⟨c', hc'⟩)
      · exact Or.inl hkey
      · exact Or.inr ⟨c', Threads.mem_set_of_ne hi hc' (by simp)⟩
    · intro key q k x r heq
      rw [StartCall.started] at heq
      split_ifs at heq
    · intro key q k r heq
      rw [StartCall.started] at heq
      split_ifs at heq
  | played hp => exact ho.play h hi hp
  | inserted =>
    simp only [Keeps, hi] at hk
    exact ho.insert hi hk
  | missing _ => exact ho.quiet hi (by simp) rfl (fun _ _ => rfl) rfl rfl
  | caught _ => exact ho.quiet hi (by simp) rfl (fun _ _ => rfl) rfl rfl
  | stopOn hs hpc _ hcalm =>
    refine ho.quiet hi ?_ hs.log hs.handle hs.sessionMap hcalm
    rintro c p rfl
    exact absurd hpc (by simp [Pc.stop])
  | @stopRead key p k ret session hp =>
    -- the handle that is read is the only stream of its kind that the session owns
    refine ho.move rfl (fun _ _ _ _ => id) ?_ ?_ (by simp)
    · rintro k' x q _ (hkey | ⟨c, hc⟩)
      · exact Or.inl hkey
      · exact Or.inr ⟨c, Threads.mem_set_of_ne hi hc (by simp)⟩
    · intro _ _ _ _ _ heq h' hopen
      obtain ⟨rfl, rfl, rfl, rfl, rfl⟩ := Pc.stopCall.inj heq
      have hown := (ho.owner k h' p hopen).1
      rw [handleOf_of_getElem? hp] at hown
      exact (Option.some.inj hown).symm
  | stopCall => exact ho.stopCall hi
  | stopClear hp => exact ho.stopClear hi hp
  | @del key p ret =>
    simp only [Keeps, hi] at hk
    have hmoved : Owners { s with threads := s.threads.set i (.done ret) } :=
      ho.quiet hi (by simp) rfl (fun _ _ => rfl) rfl rfl
    apply hmoved.erase
    intro key' q hq
    by_cases hkey : key' = key
    · exact Or.inr (hk q (hkey ▸ hq))
    · exact Or.inl ((SessionMap.getPlaySession_del_ne _ hkey).trans hq)

/-- Every step that drops no session with an open stream keeps the owners. -/
theorem Owners.step {s s' : Sys} {act : Action} (ho : s.Owners) (h : s.Pointers)
    (hk : s.Keeps act) (hs : s.step act = some s') : s'.Owners := by
  replace hs := (step_eq_some.mp hs).2
  cases act with
  | call c =>
    rw [← Option.some.inj hs]
    have hold : ∀ q ∈ s.threads ++ [c.entry], q = c.entry ∨ q ∈ s.threads := by
      intro q hq
      rcases List.mem_append.mp hq with hq | hq
      · exact Or.inr hq
      · exact Or.inl (List.mem_singleton.mp hq)
    constructor
    · intro k x p hopen
      obtain ⟨hh, hplace⟩ := ho.owner k x p hopen
      exact ⟨hh, hplace.imp_right fun ⟨c', hc'⟩ => ⟨c', List.mem_append_left _ hc'⟩⟩
    · intro key p k x ret hmem
      rcases hold _ hmem with heq | hmem
      · cases c <;> exact absurd heq (by simp [StreamCall.entry])
      · exact ho.call key p k x ret hmem
    · intro key p k ret hmem
      rcases hold _ hmem with heq | hmem
      · cases c <;> exact absurd heq (by simp [StreamCall.entry])
      · exact ho.clear key p k ret hmem
  | step i a =>
    obtain ⟨pc, t, pc', hi, hadv, rfl⟩ := next_step hs
    exact ho.advance h hi hk hadv
  | onclose clihandle =>
    rcases next_onclose hs with ⟨_, rfl⟩ | ⟨hhas, _⟩
    · exact ho
    · exact absurd hhas hk
  | destroy p val =>
    obtain ⟨session, hp, _, _, rfl⟩ := next_destroy hs
    refine ⟨?_, ho.call, ho.clear⟩
    intro k x q hopen
    obtain ⟨hh, hplace⟩ := ho.owner k x q hopen
    refine ⟨?_, hplace⟩
    exact (handleOf_store_same hp (handle_disconnetMS session val k) q).trans hh

lemma start_invariant : Sys.start.Pointers ∧ Sys.start.Owners := by
  refine ⟨⟨?_, ?_, ?_, ?_, ?_⟩, ⟨?_, ?_, ?_⟩⟩ <;>
    simp [Sys.start, openOwner, SessionMap.getPlaySession, AList.lookup_empty]

/-- In every run of which no step drops a session with an open stream, no iterator is used that is
not valid, and whenever no call is in progress, every open stream is that of a live session in the
map. -/
theorem openStreams_inMap {as : List Action} {s : Sys} (hrun : Run.run step start as = some s)
    (hkeeps : Run.Meets step Keeps start as) :
    s.fault = none ∧ (s.Quiescent → ∀ k h, IsOpen s.log k h → s.InMap k h) := by
  have hinv : s.Pointers ∧ s.Owners ∧ s.fault = none := by
    refine Run.run_invariant (I := fun s => s.Pointers ∧ s.Owners ∧ s.fault = none) ?_
      ⟨start_invariant.1, start_invariant.2, rfl⟩ hkeeps hrun
    rintro s act s' ⟨hp, ho, _⟩ hk hs
    refine ⟨hp.step hs, ho.step hp hk hs, fault_of_step hs ?_⟩
    rintro clihandle rfl
    exact hk
  obtain ⟨hp, ho, hfault⟩ := hinv
  refine ⟨hfault, fun hquiet k h hopen => ?_⟩
  obtain ⟨p, hown⟩ := Option.ne_none_iff_exists'.mp hopen
  obtain ⟨hh, hplace⟩ := ho.owner k h p hown
  -- the owner is in the map, or its start has yet to insert it
  rcases hplace with ⟨key, hkey⟩ | ⟨c, hc⟩
  · exact ⟨key, p, hkey, (hp.mapped key p hkey).2, hh⟩
  · exact absurd (hquiet _ hc) (by simp [Pc.isDone])

/-! ### Runs that lose a stream -/

/-- A step of thread `i` for which all calls succeed. -/
def succeed (i : ℕ) (h : LLONG) : Action :=
  .step i (.ok h)

/-- Two starts of `s1` that both find no session. -/
def overlappingStarts : List Action :=
  [.call startS1, .call startS1, succeed 0 5, succeed 1 6] ++ List.replicate 4 (succeed 0 5) ++
    List.replicate 4 (succeed 1 6)

/-- A stop of `s1` that looked up its session, was overtaken by another stop and a new start, and
erases the new session. -/
def staleStop : List Action :=
  .call startS1 :: List.replicate 5 (succeed 0 5) ++
    [.call (.stop "s1"), .call (.stop "s1"), succeed 1 0, succeed 2 0] ++
    List.replicate 15 (succeed 1 0) ++ .call startS1 :: List.replicate 5 (succeed 3 6) ++
    List.replicate 5 (succeed 2 0)

/-- In each of these runs a stream stays open that is of no session in the map. -/
theorem openStreams_lost :
    (∃ s, Run.run step start overlappingStarts = some s ∧ s.Quiescent ∧
      IsOpen s.log .real 6 ∧ ¬ s.InMap .real 6) ∧
    (∃ s, Run.run step start staleStop = some s ∧ s.Quiescent ∧
      IsOpen s.log .real 6 ∧ ¬ s.InMap .real 6) := by
  refine ⟨⟨_, rfl, ?_, ?_, ?_⟩, ⟨_, rfl, ?_, ?_, ?_⟩⟩ <;> decide

/-- A start that nothing disturbs leaves its stream in the map. -/
theorem openStreams_inMap_start : ∃ s,
    Run.run step start (.call startS1 :: List.replicate 5 (succeed 0 5)) = some s ∧
      s.InMap .real 5 := by
  refine ⟨_, rfl, ?_⟩
  have hfree : "s1" ∉ (∅ : SessionMap ℕ) := by decide
  have hkeeps : Run.Meets step Keeps start (.call startS1 :: List.replicate 5 (succeed 0 5)) := by
    exact Run.meets_cons trivial rfl (Run.meets_cons trivial rfl (Run.meets_cons trivial rfl
      (Run.meets_cons trivial rfl (Run.meets_cons trivial rfl
        (Run.meets_cons (Or.inl hfree) rfl trivial)))))
  exact (openStreams_inMap rfl hkeeps).2 (by decide) .real 5 (by decide)

end Sys

end DHGateway
