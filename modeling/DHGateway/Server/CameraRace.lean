import DHGateway.Core.Run
import DHGateway.Server.CameraList

/-!
# Listing cameras at the same time

`get_camera_list` keeps the number of channels in the member `m_nChanNum`, which all calls share,
and reads it again after each call of the SDK, for the length of the next array and in the loops.
-/

namespace DHGateway

/-- What a call returns, with the list that it has filled, or what it throws. -/
abbrev CameraResult := Except Exn (ℤ × List Device)

/-- Where a call of `get_camera_list` is: in a call of the SDK, for a channel in the loop over them,
or past its end. -/
inductive CameraPc where
  | getDevConfig
  | matrixGetCameras
  | queryDevInfo
  | queryRemotDevState (i : ℕ)
  | queryDevState (i : ℕ)
  | returned (r : CameraResult)

/-- A call of `get_camera_list`, with the lengths of its arrays; `cfg` has that of the list too. -/
structure CameraCall where
  login : LoginResults
  cfg : ℕ
  cameras : ℕ
  states : ℕ
  pc : CameraPc

/-- The calls so far and what they share. `overrun` tells that an index reached the length of an
array. -/
structure CameraCalls where
  nChanNum : ℤ
  calls : List CameraCall
  overrun : Bool

/-- A call begins, or the SDK answers one of them, which goes on to its next call of the SDK. -/
inductive CameraAction where
  | call (login : LoginResults)
  | answer (i : ℕ)

namespace CameraCall

def enter (env : Env) (login : LoginResults) : CameraCall where
  login := login
  cfg := login.chanNum.toNat
  cameras := 0
  states := 0
  pc :=
    if login.chanNum = 0 then .returned (.ok (0, []))
    else if login.chanNum < 0 then .returned (.error .lengthError)
    else if env.maxDevices < login.chanNum then .returned (.error .badAlloc)
    else .getDevConfig

variable (env : Env) (a : CameraAnswers) (n : ℤ) (c : CameraCall)

/-- An array of `m_nChanNum` elements cannot be made. -/
def Unallocatable : Prop := n < 0 ∨ env.maxDevices < n

instance : Decidable (Unallocatable env n) := by unfold Unallocatable; infer_instance

/-- A return in the middle, with a list that was only resized. -/
def fail (lastError : UInt32) : CameraCall :=
  { c with pc := .returned (.ok (dhSdkGetLastError lastError, List.replicate c.cfg Device.new)) }

def finish : CameraCall :=
  { c with pc := .returned (.ok (0, (List.range c.cfg).map fun i : ℕ =>
    if (i : ℤ) < n then a.device i else Device.new)) }

/-- An index of the last loop is not below the length of an array that it is used on. Channels
without a camera are skipped. -/
def FinishOverruns : Prop :=
  ∃ i < n.toNat, c.cameras ≤ i ∨
    (a.stuRemoteDevice i).szIp ≠ "192.168.0.0" ∧ (c.cfg ≤ i ∨ c.states ≤ i)

instance : Decidable (c.FinishOverruns a n) := by unfold FinishOverruns; infer_instance

/-- The head of the loop over the channels, with what comes behind it. -/
def loop (i : ℕ) : CameraCall × Bool :=
  if (i : ℤ) < n then ({ c with pc := .queryRemotDevState i }, false)
  else (c.finish a n, c.FinishOverruns a n)

/-- The end of the body of that loop, which writes the state of the channel. -/
def written (i : ℕ) : CameraCall × Bool :=
  let (c', overrun) := c.loop a n (i + 1)
  (c', c.states ≤ i || overrun)

/-- What a call makes of an answer, when `m_nChanNum` is `n`, and whether it overruns an array. -/
def next : CameraCall × Bool :=
  match c.pc with
  | .getDevConfig =>
    if !a.getDevConfig.ok then (c.fail a.getDevConfig.lastError, false)
    else if Unallocatable env n then ({ c with pc := .returned (.error .badAlloc) }, false)
    else ({ c with cameras := n.toNat, pc := .matrixGetCameras }, false)
  | .matrixGetCameras =>
    if !a.matrixGetCameras.ok then (c.fail a.matrixGetCameras.lastError, false)
    else if Unallocatable env n then ({ c with pc := .returned (.error .badAlloc) }, false)
    else ({ c with states := n.toNat, pc := .queryDevInfo }, false)
  | .queryDevInfo =>
    if a.queryDevInfo then (c.finish a n, c.FinishOverruns a n) else c.loop a n 0
  | .queryRemotDevState i =>
    if (a.queryRemotDevState i).isNone then ({ c with pc := .queryDevState i }, false)
    else c.written a n i
  | .queryDevState i => c.written a n i
  | .returned _ => (c, false)

/-- The answer makes the call read `m_nChanNum` again. -/
def Reads : Prop :=
  match c.pc with
  | .getDevConfig => a.getDevConfig.ok = true
  | .matrixGetCameras => a.matrixGetCameras.ok = true
  | .queryDevInfo | .queryDevState _ => True
  | .queryRemotDevState i => (a.queryRemotDevState i).isSome = true
  | .returned _ => False

end CameraCall

/-- What a call comes to when it is the only one. -/
def cameraResult (env : Env) (a : CameraAnswers) (login : LoginResults) : CameraResult :=
  (getCameraList env login a).map fun r => (r.1, r.2.1)

namespace CameraCalls

variable (env : Env) (answers : LLONG → CameraAnswers)

/-- One step; what the SDK answers depends on the login handle. -/
def step (s : CameraCalls) : CameraAction → Option CameraCalls
  | .call login => some { s with
      nChanNum := login.chanNum
      calls := s.calls ++ [.enter env login] }
  | .answer i =>
    match s.calls[i]? with
    | none => none
    | some c =>
      match c.pc with
      | .returned _ => none
      | _ =>
        let (c', overrun) := c.next env (answers c.login.handle) s.nChanNum
        some { s with calls := s.calls.set i c', overrun := s.overrun || overrun }

/-- No call has overrun an array, and each one that returned has the result that it has alone. -/
structure Undisturbed (s : CameraCalls) : Prop where
  overrun : s.overrun = false
  result : ∀ c ∈ s.calls, ∀ r, c.pc = .returned r →
    r = cameraResult env (answers c.login.handle) c.login

/-- A call that reads `m_nChanNum` again finds the number that it put there. -/
def Keeps (s : CameraCalls) : CameraAction → Prop
  | .call _ => True
  | .answer i => ∀ c, s.calls[i]? = some c → c.Reads (answers c.login.handle) →
      s.nChanNum = c.login.chanNum

end CameraCalls

/-! ### A call that is not disturbed -/

/-- A count that arrays can be made for. -/
structure Countable (env : Env) (n : ℤ) : Prop where
  pos : 0 < n
  le : n ≤ env.maxDevices

lemma Countable.allocatable {env : Env} {n : ℤ} (h : Countable env n) :
    ¬ CameraCall.Unallocatable env n :=
  not_or.mpr ⟨not_lt.mpr h.pos.le, not_lt.mpr h.le⟩

section

variable {env : Env} {a : CameraAnswers} {login : LoginResults}

lemma cameraResult_getDevConfig (h : Countable env login.chanNum) (ha : a.getDevConfig.ok = false) :
    cameraResult env a login = .ok (dhSdkGetLastError a.getDevConfig.lastError,
      List.replicate login.chanNum.toNat Device.new) := by
  rw [cameraResult, getCameraList]
  simp only [if_neg h.pos.ne', if_neg (not_lt.mpr h.pos.le), if_neg (not_lt.mpr h.le), ha]
  rfl

lemma cameraResult_matrixGetCameras (h : Countable env login.chanNum)
    (hcfg : a.getDevConfig.ok = true) (ha : a.matrixGetCameras.ok = false) :
    cameraResult env a login = .ok (dhSdkGetLastError a.matrixGetCameras.lastError,
      List.replicate login.chanNum.toNat Device.new) := by
  rw [cameraResult, getCameraList]
  simp only [if_neg h.pos.ne', if_neg (not_lt.mpr h.pos.le), if_neg (not_lt.mpr h.le), hcfg, ha]
  rfl

lemma cameraResult_listed (h : Countable env login.chanNum) (hcfg : a.getDevConfig.ok = true)
    (hcameras : a.matrixGetCameras.ok = true) :
    cameraResult env a login = .ok (0, (List.range login.chanNum.toNat).map a.device) := by
  rw [cameraResult, getCameraList]
  simp only [if_neg h.pos.ne', if_neg (not_lt.mpr h.pos.le), if_neg (not_lt.mpr h.le), hcfg,
    hcameras]
  rfl

end

namespace CameraCall

/-- How far the arrays are made, with the answers that this needed. -/
structure HasCfg (env : Env) (c : CameraCall) : Prop extends Countable env c.login.chanNum where
  cfg : c.cfg = c.login.chanNum.toNat

structure HasCameras (env : Env) (a : CameraAnswers) (c : CameraCall) : Prop
    extends HasCfg env c where
  getDevConfig : a.getDevConfig.ok = true
  cameras : c.cameras = c.login.chanNum.toNat

structure HasStates (env : Env) (a : CameraAnswers) (c : CameraCall) : Prop
    extends HasCameras env a c where
  matrixGetCameras : a.matrixGetCameras.ok = true
  states : c.states = c.login.chanNum.toNat

/-- The call has all it needs for what comes next, or it has returned what it returns alone. -/
def Sound (env : Env) (a : CameraAnswers) (c : CameraCall) : Prop :=
  match c.pc with
  | .getDevConfig => c.HasCfg env
  | .matrixGetCameras => c.HasCameras env a
  | .queryDevInfo => c.HasStates env a
  | .queryRemotDevState i | .queryDevState i => c.HasStates env a ∧ (i : ℤ) < c.login.chanNum
  | .returned r => r = cameraResult env a c.login

variable {env : Env} {a : CameraAnswers} {c : CameraCall}

lemma sound_enter (env : Env) (a : CameraAnswers) (login : LoginResults) :
    (enter env login).Sound env a := by
  rw [enter]
  by_cases hzero : login.chanNum = 0
  · simp only [if_pos hzero, Sound, cameraResult, getCameraList]
    rfl
  · by_cases hneg : login.chanNum < 0
    · simp only [if_neg hzero, if_pos hneg, Sound, cameraResult, getCameraList]
      rfl
    · by_cases hmax : env.maxDevices < login.chanNum
      · simp only [if_neg hzero, if_neg hneg, if_pos hmax, Sound, cameraResult, getCameraList]
        rfl
      · simp only [if_neg hzero, if_neg hneg, if_neg hmax, Sound]
        exact ⟨⟨lt_of_le_of_ne (not_lt.mp hneg) (Ne.symm hzero), not_lt.mp hmax⟩, rfl⟩

lemma HasStates.finish (h : c.HasStates env a) :
    (c.finish a c.login.chanNum).Sound env a ∧ ¬ c.FinishOverruns a c.login.chanNum := by
  constructor
  · show Except.ok _ = cameraResult env a c.login
    rw [cameraResult_listed h.toCountable h.getDevConfig h.matrixGetCameras, h.cfg]
    congr 2
    apply List.map_congr_left
    intro i hi
    have hlt : (i : ℤ) < c.login.chanNum := by
      have := List.mem_range.mp hi
      omega
    exact if_pos hlt
  · rintro ⟨i, hi, hcameras | ⟨-, hcfg | hstates⟩⟩
    · exact absurd hi (not_lt.mpr (h.cameras ▸ hcameras))
    · exact absurd hi (not_lt.mpr (h.cfg ▸ hcfg))
    · exact absurd hi (not_lt.mpr (h.states ▸ hstates))

lemma HasStates.goesOn (h : c.HasStates env a) (pc : CameraPc) :
    { c with pc := pc }.HasStates env a :=
  ⟨⟨⟨h.toCountable, h.cfg⟩, h.getDevConfig, h.cameras⟩, h.matrixGetCameras, h.states⟩

lemma HasStates.loop (h : c.HasStates env a) (i : ℕ) :
    (c.loop a c.login.chanNum i).1.Sound env a ∧ (c.loop a c.login.chanNum i).2 = false := by
  rw [CameraCall.loop]
  by_cases hi : (i : ℤ) < c.login.chanNum
  · rw [if_pos hi]
    exact ⟨⟨h.goesOn _, hi⟩, rfl⟩
  · rw [if_neg hi]
    exact ⟨h.finish.1, decide_eq_false h.finish.2⟩

lemma HasStates.written (h : c.HasStates env a) {i : ℕ} (hi : (i : ℤ) < c.login.chanNum) :
    (c.written a c.login.chanNum i).1.Sound env a ∧
      (c.written a c.login.chanNum i).2 = false := by
  obtain ⟨hsound, hloop⟩ := h.loop (i + 1)
  refine ⟨hsound, ?_⟩
  have hstate : ¬ c.states ≤ i := by
    rw [h.states]
    omega
  show (decide (c.states ≤ i) || (c.loop a c.login.chanNum (i + 1)).2) = false
  rw [hloop, decide_eq_false hstate]
  rfl

lemma Sound.next (h : c.Sound env a) {n : ℤ} (hn : c.Reads a → n = c.login.chanNum) :
    (c.next env a n).1.Sound env a ∧ (c.next env a n).2 = false := by
  obtain ⟨login, cfg, cameras, states, pc⟩ := c
  cases pc with
  | getDevConfig =>
    have hcfg : HasCfg env _ := h
    rw [CameraCall.next]
    cases ha : a.getDevConfig.ok with
    | false =>
      refine ⟨?_, rfl⟩
      show Except.ok _ = cameraResult env a login
      rw [cameraResult_getDevConfig hcfg.toCountable ha, hcfg.cfg]
    | true =>
      -- the count is read again here, and is the call's own
      obtain rfl : n = login.chanNum := hn ha
      simp only [Bool.not_true, Bool.false_eq_true, if_false, if_neg hcfg.allocatable]
      exact ⟨⟨⟨hcfg.toCountable, hcfg.cfg⟩, ha, rfl⟩, trivial⟩
  | matrixGetCameras =>
    have hcameras : HasCameras env a _ := h
    rw [CameraCall.next]
    cases ha : a.matrixGetCameras.ok with
    | false =>
      refine ⟨?_, rfl⟩
      show Except.ok _ = cameraResult env a login
      rw [cameraResult_matrixGetCameras hcameras.toCountable hcameras.getDevConfig ha,
        hcameras.cfg]
    | true =>
      obtain rfl : n = login.chanNum := hn ha
      simp only [Bool.not_true, Bool.false_eq_true, if_false, if_neg hcameras.allocatable]
      exact ⟨⟨⟨⟨hcameras.toCountable, hcameras.cfg⟩, hcameras.getDevConfig, hcameras.cameras⟩, ha,
        rfl⟩, trivial⟩
  | queryDevInfo =>
    have hstates : HasStates env a _ := h
    obtain rfl : n = login.chanNum := hn trivial
    rw [CameraCall.next]
    cases ha : a.queryDevInfo with
    | false => exact hstates.loop 0
    | true => exact ⟨hstates.finish.1, decide_eq_false hstates.finish.2⟩
  | queryRemotDevState i =>
    obtain ⟨hstates, hi⟩ : HasStates env a _ ∧ (i : ℤ) < login.chanNum := h
    cases ha : a.queryRemotDevState i with
    | none =>
      have hnext : CameraCall.next env a n ⟨login, cfg, cameras, states, .queryRemotDevState i⟩ =
          (⟨login, cfg, cameras, states, .queryDevState i⟩, false) := by
        simp only [CameraCall.next, ha, Option.isNone_none, if_true]
      rw [hnext]
      exact ⟨⟨hstates.goesOn _, hi⟩, rfl⟩
    | some online =>
      have hreads : Reads a ⟨login, cfg, cameras, states, .queryRemotDevState i⟩ := by
        show (a.queryRemotDevState i).isSome = true
        rw [ha]
        rfl
      obtain rfl : n = login.chanNum := hn hreads
      have hnext : CameraCall.next env a login.chanNum
          ⟨login, cfg, cameras, states, .queryRemotDevState i⟩ =
          CameraCall.written a login.chanNum
            ⟨login, cfg, cameras, states, .queryRemotDevState i⟩ i := by
        simp only [CameraCall.next, ha, Option.isNone_some, Bool.false_eq_true, if_false]
      rw [hnext]
      exact hstates.written hi
  | queryDevState i =>
    obtain ⟨hstates, hi⟩ : HasStates env a _ ∧ (i : ℤ) < login.chanNum := h
    obtain rfl : n = login.chanNum := hn trivial
    exact hstates.written hi
  | returned r => exact ⟨h, rfl⟩

lemma login_next (n : ℤ) : (c.next env a n).1.login = c.login := by
  have hloop : ∀ i, (c.loop a n i).1.login = c.login := by
    intro i
    rw [CameraCall.loop]
    split_ifs <;> rfl
  rw [CameraCall.next]
  split
  · split_ifs <;> rfl
  · split_ifs <;> rfl
  · split_ifs
    · rfl
    · exact hloop 0
  · split_ifs
    · rfl
    · exact hloop _
  · exact hloop _
  · rfl

/-- A bound on the answers that the call still needs while `m_nChanNum` stays `n`. -/
def rest (n : ℤ) (c : CameraCall) : ℕ :=
  match c.pc with
  | .getDevConfig => 2 * n.toNat + 5
  | .matrixGetCameras => 2 * n.toNat + 4
  | .queryDevInfo => 2 * n.toNat + 3
  | .queryRemotDevState i => 2 * (n.toNat - i) + 2
  | .queryDevState i => 2 * (n.toNat - i) + 1
  | .returned _ => 0

lemma returned_of_rest {n : ℤ} (h : c.rest n = 0) : ∃ r, c.pc = .returned r := by
  rw [rest] at h
  split at h
  · omega
  · omega
  · omega
  · omega
  · omega
  · exact ⟨_, by assumption⟩

lemma rest_loop (n : ℤ) (i : ℕ) : (c.loop a n i).1.rest n ≤ 2 * (n.toNat - i) + 2 := by
  rw [loop]
  split_ifs
  · exact le_rfl
  · exact Nat.zero_le _

lemma rest_written (n : ℤ) (i : ℕ) : (c.written a n i).1.rest n ≤ 2 * (n.toNat - i) := by
  show (c.loop a n (i + 1)).1.rest n ≤ _
  rw [loop]
  split_ifs with hi
  · show 2 * (n.toNat - (i + 1)) + 2 ≤ 2 * (n.toNat - i)
    omega
  · exact Nat.zero_le _

lemma rest_next (n : ℤ) (h : ¬ ∃ r, c.pc = .returned r) : (c.next env a n).1.rest n < c.rest n := by
  obtain ⟨login, cfg, cameras, states, pc⟩ := c
  rw [next]
  cases pc with
  | getDevConfig =>
    show _ < 2 * n.toNat + 5
    dsimp only
    split_ifs
    · exact Nat.succ_pos _
    · exact Nat.succ_pos _
    · exact Nat.lt_succ_self _
  | matrixGetCameras =>
    show _ < 2 * n.toNat + 4
    dsimp only
    split_ifs
    · exact Nat.succ_pos _
    · exact Nat.succ_pos _
    · exact Nat.lt_succ_self _
  | queryDevInfo =>
    show _ < 2 * n.toNat + 3
    dsimp only
    split_ifs
    · exact Nat.succ_pos _
    · exact Nat.lt_succ_of_le (rest_loop n 0)
  -- the loop is never behind where it was
  | queryRemotDevState i =>
    show _ < 2 * (n.toNat - i) + 2
    dsimp only
    split_ifs
    · exact Nat.lt_succ_self _
    · exact lt_of_le_of_lt (rest_written n i) (Nat.lt_add_of_pos_right (Nat.succ_pos _))
  | queryDevState i => exact Nat.lt_succ_of_le (rest_written n i)
  | returned r => exact absurd ⟨r, rfl⟩ h

end CameraCall

namespace CameraCalls

/-! ### Runs -/

variable {env : Env} {answers : LLONG → CameraAnswers}

structure Inv (env : Env) (answers : LLONG → CameraAnswers) (s : CameraCalls) : Prop where
  overrun : s.overrun = false
  sound : ∀ c ∈ s.calls, c.Sound env (answers c.login.handle)

lemma Inv.undisturbed {s : CameraCalls} (h : s.Inv env answers) : s.Undisturbed env answers where
  overrun := h.overrun
  result := by
    intro c hc r hr
    have hsound := h.sound c hc
    rw [CameraCall.Sound, hr] at hsound
    exact hsound

lemma step_answer {s s' : CameraCalls} {i : ℕ} (h : s.step env answers (.answer i) = some s') :
    ∃ c, s.calls[i]? = some c ∧ s' = { s with
      calls := s.calls.set i (c.next env (answers c.login.handle) s.nChanNum).1
      overrun := s.overrun || (c.next env (answers c.login.handle) s.nChanNum).2 } := by
  simp only [step] at h
  split at h
  · cases h
  · rename_i c hc
    split at h
    · cases h
    · exact ⟨c, hc, (Option.some.inj h).symm⟩

lemma Inv.step {s s' : CameraCalls} {act : CameraAction} (h : s.Inv env answers)
    (hk : s.Keeps answers act) (hs : s.step env answers act = some s') : s'.Inv env answers := by
  cases act with
  | call login =>
    rw [← Option.some.inj hs]
    refine ⟨h.overrun, fun c hc => ?_⟩
    rcases List.mem_append.mp hc with hc | hc
    · exact h.sound c hc
    · rw [List.mem_singleton.mp hc]
      exact CameraCall.sound_enter env _ login
  | answer i =>
    obtain ⟨c, hc, rfl⟩ := step_answer hs
    obtain ⟨hsound, hoverrun⟩ := (h.sound c (List.mem_of_getElem? hc)).next (hk c hc)
    refine ⟨?_, fun c' hc' => ?_⟩
    · show (s.overrun || _) = false
      rw [h.overrun, hoverrun]
      rfl
    · rcases List.mem_or_eq_of_mem_set hc' with hc' | rfl
      · exact h.sound c' hc'
      · rw [CameraCall.login_next]
        exact hsound

lemma meets_of_chanNum {k : ℤ} (n : ℤ) {as : List CameraAction}
    (h : ∀ act ∈ as, ∀ login, act = .call login → login.chanNum = k) :
    Run.Meets (step env answers) (Keeps answers) ⟨n, [], false⟩ as := by
  have hall : Run.Meets (step env answers)
      (fun _ act => ∀ login, act = .call login → login.chanNum = k) ⟨n, [], false⟩ as :=
    Run.meets_of_forall (fun act hact _ => h act hact) _
  refine Run.meets_of_invariant
    (I := fun s => ∀ c ∈ s.calls, c.login.chanNum = k ∧ s.nChanNum = k) ?_ ?_ ?_ hall
  · intro s act s' hI hlogin hs
    cases act with
    | call login =>
      -- every call stores the same count
      have hk : login.chanNum = k := hlogin login rfl
      rw [← Option.some.inj hs]
      intro c hc
      refine ⟨?_, hk⟩
      rcases List.mem_append.mp hc with hc | hc
      · exact (hI c hc).1
      · rw [List.mem_singleton.mp hc]
        exact hk
    | answer i =>
      obtain ⟨c, hc, rfl⟩ := step_answer hs
      have hIc := hI c (List.mem_of_getElem? hc)
      intro c' hc'
      refine ⟨?_, hIc.2⟩
      rcases List.mem_or_eq_of_mem_set hc' with hc' | rfl
      · exact (hI c' hc').1
      · rw [CameraCall.login_next]
        exact hIc.1
  · intro s act hI _
    cases act with
    | call login => trivial
    | answer i =>
      intro c hc _
      obtain ⟨hlogin, hn⟩ := hI c (List.mem_of_getElem? hc)
      rw [hn, hlogin]
  · exact fun c hc => absurd hc List.not_mem_nil

lemma answer_of_not_returned {n : ℤ} {c : CameraCall} {overrun : Bool}
    (h : ¬ ∃ r, c.pc = .returned r) :
    step env answers ⟨n, [c], overrun⟩ (.answer 0) = some
      ⟨n, [(c.next env (answers c.login.handle) n).1],
        overrun || (c.next env (answers c.login.handle) n).2⟩ := by
  obtain ⟨login, cfg, cameras, states, pc⟩ := c
  cases pc with
  | returned r => exact absurd ⟨r, rfl⟩ h
  | getDevConfig => rfl
  | matrixGetCameras => rfl
  | queryDevInfo => rfl
  | queryRemotDevState i => rfl
  | queryDevState i => rfl

variable (env answers) in
lemma run_alone (n : ℤ) (m : ℕ) : ∀ (c : CameraCall) (overrun : Bool), c.rest n ≤ m →
    ∃ (k : ℕ) (s : CameraCalls) (c' : CameraCall) (r : CameraResult),
      Run.run (step env answers) ⟨n, [c], overrun⟩ (List.replicate k (.answer 0)) = some s ∧
        s.calls = [c'] ∧ c'.login = c.login ∧ c'.pc = .returned r := by
  induction m with
  | zero =>
    intro c overrun hrest
    obtain ⟨r, hr⟩ := CameraCall.returned_of_rest (Nat.le_zero.mp hrest)
    exact ⟨0, _, c, r, rfl, rfl, rfl, hr⟩
  | succ m ih =>
    intro c overrun hrest
    by_cases hret : ∃ r, c.pc = .returned r
    · obtain ⟨r, hr⟩ := hret
      exact ⟨0, _, c, r, rfl, rfl, rfl, hr⟩
    · have hlt : (c.next env (answers c.login.handle) n).1.rest n < c.rest n :=
        CameraCall.rest_next n hret
      obtain ⟨k, s, c', r, hrun, hcalls, hlogin, hr⟩ :=
        ih (c.next env (answers c.login.handle) n).1
          (overrun || (c.next env (answers c.login.handle) n).2) (by omega)
      refine ⟨k + 1, s, c', r, ?_, hcalls, hlogin.trans (CameraCall.login_next n), hr⟩
      exact Run.run_cons.mpr ⟨_, answer_of_not_returned hret, hrun⟩

/-- A call that is the only one returns `cameraResult`. -/
theorem call_alone (env : Env) (answers : LLONG → CameraAnswers) (n : ℤ) (login : LoginResults) :
    ∃ (k : ℕ) (s : CameraCalls) (c : CameraCall),
      Run.run (step env answers) ⟨n, [], false⟩ (.call login :: List.replicate k (.answer 0)) =
        some s ∧ s.calls = [c] ∧
          c.pc = .returned (cameraResult env (answers login.handle) login) ∧
          s.overrun = false := by
  obtain ⟨k, s, c, r, hrun, hcalls, hlogin, hr⟩ :=
    run_alone env answers login.chanNum _ (.enter env login) false le_rfl
  have hcall : Run.run (step env answers) ⟨n, [], false⟩
      (.call login :: List.replicate k (.answer 0)) = some s :=
    Run.run_cons.mpr ⟨_, rfl, hrun⟩
  have hone : ∀ act ∈ CameraAction.call login :: List.replicate k (.answer 0),
      ∀ login', act = .call login' → login'.chanNum = login.chanNum := by
    intro act hact login' heq
    rcases List.mem_cons.mp hact with rfl | hact
    · rw [CameraAction.call.inj heq]
    · rw [List.eq_of_mem_replicate hact] at heq
      cases heq
  have hinv : s.Inv env answers := by
    refine Run.run_invariant (fun _ _ _ hs hk => hs.step hk) ?_ (meets_of_chanNum n hone) hcall
    exact ⟨rfl, fun c hc => absurd hc List.not_mem_nil⟩
  have hres := hinv.undisturbed.result c (hcalls ▸ List.mem_singleton_self c) r hr
  rw [show c.login = login from hlogin] at hres
  exact ⟨k, s, c, hcall, hcalls, hres ▸ hr, hinv.overrun⟩

/-- In any run of calls that find their own count whenever they read it again, each call returns
what it returns alone, and no array is overrun. -/
theorem cameras_undisturbed (env : Env) (answers : LLONG → CameraAnswers) (n : ℤ)
    {as : List CameraAction} (h : Run.Meets (step env answers) (Keeps answers) ⟨n, [], false⟩ as) :
    Run.Always (step env answers) (Undisturbed env answers) ⟨n, [], false⟩ as := by
  refine Run.always_of_meets (I := Inv env answers) (fun _ hs => hs.undisturbed)
    (fun _ _ _ hs hk => hs.step hk) ?_ h
  exact ⟨rfl, fun c hc => absurd hc List.not_mem_nil⟩

def sameAnswers (_ : LLONG) : CameraAnswers :=
  CameraAnswers.twoCameras [⟨0, true⟩, ⟨1, false⟩] fun _ => ⟨0, true⟩

/-- Two recorders with as many channels, whose lists are made at the same time. -/
theorem cameras_undisturbed_equal :
    Run.Always (step Env.plain sameAnswers) (Undisturbed Env.plain sameAnswers) ⟨0, [], false⟩
      [.call ⟨1, 2, 0, ""⟩, .answer 0, .call ⟨2, 2, 0, ""⟩, .answer 1, .answer 0, .answer 0,
        .answer 1, .answer 1] := by
  apply cameras_undisturbed
  apply meets_of_chanNum (k := 2)
  intro act hact login heq
  subst heq
  simp only [List.mem_cons, CameraAction.call.injEq, reduceCtorEq, List.not_mem_nil, or_false,
    false_or] at hact
  rcases hact with rfl | rfl
  · rfl
  · rfl

/-- While a recorder with one channel is listed, the list of one with two begins, and the last loop
of the first call runs over its arrays; and the other way round the list of the first call keeps a
camera that was never filled. -/
theorem cameras_disturbed :
    (∃ s, Run.run (step Env.plain sameAnswers) ⟨0, [], false⟩
        [.call ⟨1, 1, 0, ""⟩, .answer 0, .answer 0, .call ⟨2, 2, 0, ""⟩, .answer 0] = some s ∧
      s.overrun = true) ∧
    (∃ s, Run.run (step Env.plain sameAnswers) ⟨0, [], false⟩
        [.call ⟨1, 2, 0, ""⟩, .answer 0, .answer 0, .call ⟨2, 1, 0, ""⟩, .answer 0] = some s ∧
      s.overrun = false ∧ ¬ s.Undisturbed Env.plain sameAnswers) := by
  constructor
  · exact ⟨_, rfl, rfl⟩
  · refine ⟨_, rfl, rfl, fun h => ?_⟩
    have hres := h.result _ List.mem_cons_self _ rfl
    have hlist := congrArg Prod.snd (Except.ok.inj hres)
    exact absurd (congrArg Device.ip (List.cons.inj (List.cons.inj hlist).2).1) (by decide)

end CameraCalls

end DHGateway
