import DHGateway.Server.Handlers

/-!
# Stopping a camera

`sdk_wrap` remembers the last command that moved a camera in `temp_ptz_cmd`, one for all devices
and channels, and a stop stops that one.
-/

namespace DHGateway

/-- A call of `sdk_wrap::ptz_control` and what the SDK answers to it. -/
structure PtzCall where
  login : LoginResults
  ptz : PtzCMD
  answer : SdkResult

namespace PtzCall

/-- A stop of a movement (`0`) or of the iris and the focus (`64`). -/
def IsStop (c : PtzCall) : Prop :=
  c.ptz.contrlCmd = 0 ∨ c.ptz.contrlCmd = 64

def IsPreset (c : PtzCall) : Prop :=
  c.ptz.contrlCmd = 130 ∨ c.ptz.contrlCmd = 129 ∨ c.ptz.contrlCmd = 131

def IsMove (c : PtzCall) : Prop :=
  ¬ c.IsStop ∧ ¬ c.IsPreset

/-- The device and the channel of two commands are the same. -/
def SameAddress (c m : PtzCall) : Prop :=
  m.login.handle = c.login.handle ∧ m.ptz.channel = c.ptz.channel

instance (c : PtzCall) : Decidable c.IsStop := by unfold IsStop; infer_instance

instance (c : PtzCall) : Decidable c.IsPreset := by unfold IsPreset; infer_instance

instance (c : PtzCall) : Decidable c.IsMove := by unfold IsMove; infer_instance

instance (c m : PtzCall) : Decidable (c.SameAddress m) := by unfold SameAddress; infer_instance

def sdkCmd (env : Env) (c : PtzCall) : ℕ :=
  ((xhToDhPtzBaseCmd.lookup c.ptz.contrlCmd).map env.dhPtz).getD 0

/-- `temp_ptz_cmd` after some commands, for the value `temp` that it had before. -/
def tempPtzCmd (env : Env) (temp : ℕ) (cs : List PtzCall) : ℕ :=
  cs.foldl (fun t c => (ptzControl env t c.login c.ptz c.answer).2.1) temp

def callsAfter (env : Env) (temp : ℕ) (before : List PtzCall) (c : PtzCall) : List DeviceCall :=
  (ptzControl env (tempPtzCmd env temp before) c.login c.ptz c.answer).2.2

def lastMove (cs : List PtzCall) : Option PtzCall :=
  cs.reverse.find? fun m => m.IsMove

/-- The last movement of the camera that a command is for. -/
def lastMoveOf (c : PtzCall) (cs : List PtzCall) : Option PtzCall :=
  cs.reverse.find? fun m => m.IsMove ∧ c.SameAddress m

/-- A stop passes the command of the last movement of its camera to the SDK, and without one makes
no call. -/
def StopsOwn (env : Env) (temp : ℕ) (before : List PtzCall) (c : PtzCall) : Prop :=
  match lastMoveOf c before with
  | some m => ∃ param stop,
      callsAfter env temp before c =
        [.ptzControlEx2 c.login.handle c.ptz.channel (m.sdkCmd env) param stop]
  | none => callsAfter env temp before c = []

/-- The camera of a stop was moved before, and the last movement of all had the same SDK command as
the last one of this camera. -/
def LastIsOwn (env : Env) (before : List PtzCall) (c : PtzCall) : Prop :=
  ∃ own last, lastMoveOf c before = some own ∧ lastMove before = some last ∧
    last.sdkCmd env = own.sdkCmd env

/-- Every stop of a sequence of commands meets a condition on those before it. -/
def EachStop (cs : List PtzCall) (cond : List PtzCall → PtzCall → Prop) : Prop :=
  ∀ before c after, cs = before ++ c :: after → c.IsStop → cond before c

/-! ### What a command does -/

lemma ptzControl_of_preset (env : Env) (temp : ℕ) {c : PtzCall} (h : c.IsPreset) :
    (ptzControl env temp c.login c.ptz c.answer).2.1 = temp := by
  have hit : (xhToDhPtzBaseCmd.lookup c.ptz.contrlCmd).isSome = true := by
    rcases h with h | h | h <;> rw [h] <;> decide
  rw [ptzControl]
  exact congrArg (fun r : ℤ × ℕ × List DeviceCall => r.2.1) (if_pos ⟨hit, h⟩)

lemma ptzControl_of_stop (env : Env) (temp : ℕ) {c : PtzCall} (h : c.IsStop) :
    ptzControl env temp c.login c.ptz c.answer =
      (0, temp, [.ptzControlEx2 c.login.handle c.ptz.channel temp
        (if c.ptz.contrlParam > 8 then 8 else c.ptz.contrlParam) true]) := by
  have hpreset : ¬ c.IsPreset := by
    rcases h with h | h <;> simp [IsPreset, h]
  have hstop : c.ptz.contrlCmd = 0 ∨ c.ptz.contrlCmd = 64 := h
  rw [ptzControl, if_neg fun hp => hpreset hp.2]
  simp only [hstop, if_true]

/-- A movement is kept in `temp_ptz_cmd`, whether the SDK accepts it or not. -/
lemma ptzControl_of_move (env : Env) (temp : ℕ) {c : PtzCall} (h : c.IsMove) :
    (ptzControl env temp c.login c.ptz c.answer).2.1 = c.sdkCmd env := by
  have hstop : ¬ (c.ptz.contrlCmd = 0 ∨ c.ptz.contrlCmd = 64) := h.1
  rw [ptzControl, if_neg fun hp => h.2 hp.2]
  simp only [hstop, if_false, sdkCmd]

lemma lastMove_append (cs : List PtzCall) (c : PtzCall) :
    lastMove (cs ++ [c]) = if c.IsMove then some c else lastMove cs := by
  rw [lastMove, List.reverse_append]
  by_cases h : c.IsMove <;> simp [h, lastMove]

/-- `temp_ptz_cmd` is the command of the last movement, whichever camera it was for. -/
lemma tempPtzCmd_eq (env : Env) (temp : ℕ) (cs : List PtzCall) :
    tempPtzCmd env temp cs = ((lastMove cs).map (sdkCmd env)).getD temp := by
  induction cs using List.reverseRecOn with
  | nil => rfl
  | append_singleton cs c ih =>
    have hlast : tempPtzCmd env temp (cs ++ [c]) =
        (ptzControl env (tempPtzCmd env temp cs) c.login c.ptz c.answer).2.1 := by
      simp [tempPtzCmd]
    rw [hlast, lastMove_append]
    -- a move stores its command, which a stop and a preset leave
    by_cases hmove : c.IsMove
    · rw [ptzControl_of_move env _ hmove, if_pos hmove]
      rfl
    · rw [if_neg hmove, ← ih]
      by_cases hstop : c.IsStop
      · rw [ptzControl_of_stop env _ hstop]
      · have hpreset : c.IsPreset := by
          by_contra hno
          exact hmove ⟨hstop, hno⟩
        exact ptzControl_of_preset env _ hpreset

lemma exists_lastMove {c own : PtzCall} {cs : List PtzCall} (h : lastMoveOf c cs = some own) :
    ∃ last, lastMove cs = some last := by
  have hmem : own ∈ cs.reverse := List.mem_of_find?_eq_some h
  have hown : own.IsMove ∧ c.SameAddress own := by simpa using List.find?_some h
  apply Option.isSome_iff_exists.mp
  rw [lastMove, List.find?_isSome]
  exact ⟨own, hmem, decide_eq_true hown.1⟩

/-- A stop stops the movement of its camera just if the last movement of all had that command. -/
lemma stopsOwn_iff (env : Env) (temp : ℕ) (before : List PtzCall) {c : PtzCall}
    (hstop : c.IsStop) : StopsOwn env temp before c ↔ LastIsOwn env before c := by
  -- a stop repeats the last command stored, of whichever camera
  have hcalls : callsAfter env temp before c =
      [.ptzControlEx2 c.login.handle c.ptz.channel (tempPtzCmd env temp before)
        (if c.ptz.contrlParam > 8 then 8 else c.ptz.contrlParam) true] := by
    rw [callsAfter, ptzControl_of_stop env _ hstop]
  rw [StopsOwn, LastIsOwn, hcalls]
  cases hown : lastMoveOf c before with
  -- nothing of this camera moves, yet the stop makes its call
  | none =>
    apply iff_of_false
    · exact List.cons_ne_nil _ _
    · rintro ⟨own, _, h, _⟩
      exact nomatch h
  | some own =>
    obtain ⟨last, hlast⟩ := exists_lastMove hown
    have htemp : tempPtzCmd env temp before = last.sdkCmd env := by
      rw [tempPtzCmd_eq, hlast]
      rfl
    dsimp only
    rw [htemp]
    constructor
    · rintro ⟨param, stop, heq⟩
      injection heq with hcall _
      injection hcall with _ _ hcmd _ _
      exact ⟨own, last, rfl, hlast, hcmd⟩
    · rintro ⟨own', last', hown', hlast', hcmd⟩
      obtain rfl : own = own' := Option.some.inj hown'
      obtain rfl : last = last' := Option.some.inj (hlast.symm.trans hlast')
      rw [hcmd]
      exact ⟨_, _, rfl⟩

/-- All stops of a sequence stop what was started at their cameras, exactly if before each of them
the camera was moved and no other one was moved differently after that. -/
theorem each_stop_own_iff (env : Env) (temp : ℕ) (cs : List PtzCall) :
    EachStop cs (StopsOwn env temp) ↔ EachStop cs (LastIsOwn env) := by
  constructor
  · intro h before c after hcs hstop
    exact (stopsOwn_iff env temp before hstop).mp (h before c after hcs hstop)
  · intro h before c after hcs hstop
    exact (stopsOwn_iff env temp before hstop).mpr (h before c after hcs hstop)

def forDevice (handle : LLONG) (cmd : ℕ) : PtzCall where
  login := ⟨handle, 8, 1, ""⟩
  ptz := ⟨"CHANNEL_PTZ_CONTROL", "71709", "17", 0, cmd, 5, false⟩
  answer := ⟨true, 0⟩

/-- Device `1` is moved left and device `2` up, and a stop for device `1` stops a movement up. A
stop that comes first passes on what the memory held. -/
theorem stop_of_other_device :
    callsAfter Env.plain 7 [forDevice 1 2, forDevice 2 8] (forDevice 1 0) =
        [.ptzControlEx2 1 0 (Env.plain.dhPtz .upControl) 5 true] ∧
      callsAfter Env.plain 7 [] (forDevice 1 0) = [.ptzControlEx2 1 0 7 5 true] ∧
      ¬ EachStop [forDevice 1 2, forDevice 2 8, forDevice 1 0] (StopsOwn Env.plain 7) ∧
      ¬ EachStop [forDevice 1 0] (StopsOwn Env.plain 7) := by
  refine ⟨rfl, rfl, fun h => ?_, fun h => ?_⟩
  · obtain ⟨param, stop, heq⟩ :=
      h [forDevice 1 2, forDevice 2 8] (forDevice 1 0) [] rfl (Or.inl rfl)
    injection heq with hcall _
    injection hcall with _ _ hcmd _ _
    exact absurd (show 0 = 2 from hcmd) (by decide)
  · exact List.cons_ne_nil _ _ (h [] (forDevice 1 0) [] rfl (Or.inl rfl))

end PtzCall

end DHGateway
