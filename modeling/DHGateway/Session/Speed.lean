import Mathlib.Analysis.Real.Sqrt
import DHGateway.Common
import DHGateway.Core.Run

/-!
# The speed of a playback

`PlaySession::setSpeed(float)` on a device whose rate `CLIENT_FastPlayBack` doubles,
`CLIENT_SlowPlayBack` halves and `CLIENT_NormalPlayBack` sets to `1`. Numbers are exact.
-/

namespace DHGateway

namespace Speed

def documentedSpeeds : List ℚ := [1 / 8, 1 / 4, 1 / 2, 1, 2, 4, 8]

/-- A call of `setSpeed`: the speed asked for, what the SDK answers to the calls made for it, and
the error behind a failure. -/
structure Call where
  target : ℚ
  positive : 0 < target
  answer : ℕ → Bool
  lastError : UInt32

/-- `m_nSpeed` and the rate of the device; the value that the last call returned and the speed that
it was for; whether a call has divided by zero. -/
structure Player where
  speed : ℚ
  rate : ℚ
  last : Option (ℤ × ℚ)
  dividedByZero : Bool

def Player.start : Player :=
  ⟨1, 1, none, false⟩

/-- `int n = sqrt(a) / sqrt(b)`, the number of rounds. -/
def rounds (a b : ℚ) : ℕ :=
  Nat.sqrt ⌊a / b⌋₊

/-- The loop of `setSpeed` for a number of rounds, the first of which is `i`: the speed, the rate
of the device and `DHRET`. A round whose call fails replaces the speed, and one whose call succeeds
ends the loop. -/
def loop (change : ℚ → ℚ) (replaced : ℚ) (answer : ℕ → Bool) : ℕ → ℕ → ℚ × ℚ × Bool → ℚ × ℚ × Bool
  | 0, _, s => s
  | n + 1, i, (speed, rate, _) =>
    if answer i then (speed, change rate, true)
    else loop change replaced answer n (i + 1) (replaced, rate, false)

def Player.planned (p : Player) (target : ℚ) : ℕ :=
  if target = 1 then 1
  else if target > p.speed then rounds target p.speed
  else rounds p.speed target

/-- The end of `setSpeed`: the speed is stored if the last SDK call succeeded. The quotient of the
roots divides by `m_nSpeed` for a greater speed. -/
def Player.ended (p : Player) (c : Call) : ℚ × ℚ × Bool → Player
  | (speed, rate, dhRet) =>
    { speed := if dhRet then speed else p.speed
      rate := rate
      last := some (if dhRet then 0 else dhSdkGetLastError c.lastError, c.target)
      dividedByZero := p.dividedByZero || (c.target ≠ 1 && c.target > p.speed && p.speed = 0) }

/-- `PlaySession::setSpeed(float)`. In `1 / 2 * m_nSpeed` the numbers `1` and `2` are integers. -/
def Player.setSpeed (p : Player) (c : Call) : Player :=
  p.ended c <|
    if c.target = 1 then (c.target, if c.answer 0 then 1 else p.rate, c.answer 0)
    else if c.target > p.speed then
      loop (fun r => 2 * r) (2 * p.speed) c.answer (rounds c.target p.speed) 0
        (c.target, p.rate, true)
    else
      loop (fun r => r / 2) (((1 / 2 : ℤ) : ℚ) * p.speed) c.answer (rounds p.speed c.target) 0
        (c.target, p.rate, true)

def step (p : Player) (c : Call) : Option Player :=
  some (p.setSpeed c)

structure InStep (p : Player) : Prop where
  rate : p.speed = p.rate
  speed_ne : p.speed ≠ 0
  reached : ∀ target, p.last = some (0, target) → p.speed = target ∧ p.rate = target
  divided : p.dividedByZero = false

/-- The call is for the normal speed, the double or the half of the current one and the first SDK
call made for it succeeds; or all of them fail, with an error or for the speed that there is. -/
def Follows (p : Player) (c : Call) : Prop :=
  (c.answer 0 = true ∧ (c.target = 1 ∨ c.target = 2 * p.speed ∨ 2 * c.target = p.speed)) ∨
    ((∀ i < p.planned c.target, c.answer i = false) ∧
      (dhSdkGetLastError c.lastError ≠ 0 ∨ c.target = p.speed))

/-! ### The rounds -/

/-- The number of rounds is the largest integer that is not above the quotient of the roots. -/
lemma rounds_eq_floor {a b : ℚ} (ha : 0 ≤ a) (hb : 0 ≤ b) :
    rounds a b = ⌊√(a : ℝ) / √(b : ℝ)⌋₊ := by
  have hq : 0 ≤ a / b := div_nonneg ha hb
  have hb' : (0 : ℝ) ≤ b := by exact_mod_cast hb
  apply eq_of_forall_le_iff
  intro n
  rw [rounds, Nat.le_sqrt, Nat.le_floor_iff hq, ← Real.sqrt_div' _ hb', ← Rat.cast_div,
    Nat.le_floor_iff (Real.sqrt_nonneg _), Real.le_sqrt (Nat.cast_nonneg n), sq]
  · exact_mod_cast Iff.rfl
  · exact_mod_cast hq

lemma rounds_pos {a b : ℚ} (hb : 0 < b) (h : b ≤ a) : 0 < rounds a b := by
  rw [rounds, Nat.sqrt_pos, Nat.floor_pos]
  exact (one_le_div hb).mpr h

lemma rounds_double {b : ℚ} (hb : 0 < b) : rounds (2 * b) b = 1 := by
  rw [rounds, mul_div_assoc, div_self hb.ne', mul_one]
  norm_num

lemma loop_speed (change change' : ℚ → ℚ) (replaced : ℚ) (answer : ℕ → Bool) (n i : ℕ)
    (speed rate rate' : ℚ) (dhRet : Bool) :
    (loop change replaced answer n i (speed, rate, dhRet)).1 =
        (loop change' replaced answer n i (speed, rate', dhRet)).1 ∧
      (loop change replaced answer n i (speed, rate, dhRet)).2.2 =
        (loop change' replaced answer n i (speed, rate', dhRet)).2.2 := by
  induction n generalizing i speed dhRet with
  | zero => exact ⟨rfl, rfl⟩
  | succ n ih =>
    rw [loop, loop]
    split_ifs
    · exact ⟨rfl, rfl⟩
    · exact ih (i + 1) replaced false

/-- How the loop ends: in the first round with the speed asked for, in a later one with the speed
replaced, or not at all. -/
lemma loop_cases (change : ℚ → ℚ) (replaced : ℚ) (answer : ℕ → Bool) (n i : ℕ) (speed rate : ℚ)
    (dhRet : Bool) :
    (answer i = true ∧
      loop change replaced answer (n + 1) i (speed, rate, dhRet) = (speed, change rate, true)) ∨
    (answer i = false ∧ (∃ j, 0 < j ∧ j < n + 1 ∧ answer (i + j) = true) ∧
      loop change replaced answer (n + 1) i (speed, rate, dhRet) = (replaced, change rate, true)) ∨
    ((∀ j < n + 1, answer (i + j) = false) ∧
      loop change replaced answer (n + 1) i (speed, rate, dhRet) = (replaced, rate, false)) := by
  cases hi : answer i with
  | true =>
    left
    rw [loop, if_pos hi]
    exact ⟨rfl, rfl⟩
  | false =>
    right
    -- the call failed, so the speed that the next round asks for is the replaced one
    have hstep : loop change replaced answer (n + 1) i (speed, rate, dhRet) =
        loop change replaced answer n (i + 1) (replaced, rate, false) := by
      rw [loop, if_neg (by simp [hi])]
    rw [hstep]
    clear hstep
    induction n generalizing i with
    | zero =>
      right
      refine ⟨fun j hj => ?_, rfl⟩
      rw [Nat.lt_one_iff.mp hj]
      exact hi
    | succ n ih =>
      cases hnext : answer (i + 1) with
      | true =>
        left
        rw [loop, if_pos hnext]
        exact ⟨rfl, ⟨1, Nat.one_pos, by omega, hnext⟩, rfl⟩
      | false =>
        rw [loop, if_neg (by simp [hnext])]
        rcases ih (i + 1) hnext with ⟨-, ⟨j, hj, hjn, htrue⟩, hloop⟩ | ⟨hall, hloop⟩
        · left
          refine ⟨rfl, ⟨j + 1, by omega, by omega, ?_⟩, hloop⟩
          rwa [show i + (j + 1) = i + 1 + j by omega]
        · right
          refine ⟨fun j hj => ?_, hloop⟩
          cases j with
          | zero => exact hi
          | succ j =>
            rw [show i + (j + 1) = i + 1 + j by omega]
            exact hall j (by omega)

/-- The change of the device's rate that a call asks the SDK for. -/
def Player.change (p : Player) (target : ℚ) : ℚ :=
  if target = 1 then 1 else if target > p.speed then 2 * p.rate else p.rate / 2

lemma planned_pos {p : Player} {c : Call} (hspeed : 0 < p.speed) : 0 < p.planned c.target := by
  rw [Player.planned]
  split_ifs with h1 h2
  · exact Nat.one_pos
  · exact rounds_pos hspeed (le_of_lt h2)
  · exact rounds_pos c.positive (le_of_not_gt h2)

/-- How a call ends: the first SDK call succeeds, or a later one, or none. -/
def Ends (p : Player) (c : Call) (replaced changed : ℚ) (p' : Player) : Prop :=
  (c.answer 0 = true ∧ p' = ⟨c.target, changed, some (0, c.target), p.dividedByZero⟩) ∨
  (c.answer 0 = false ∧ (∃ j < p.planned c.target, c.answer j = true) ∧
    p' = ⟨replaced, changed, some (0, c.target), p.dividedByZero⟩) ∨
  ((∀ j < p.planned c.target, c.answer j = false) ∧
    p' = { p with last := some (dhSdkGetLastError c.lastError, c.target) })

lemma ended_of_speed {p : Player} {c : Call} (hspeed : 0 < p.speed) (speed rate : ℚ)
    (dhRet : Bool) :
    p.ended c (speed, rate, dhRet) =
      ⟨if dhRet then speed else p.speed, rate,
        some (if dhRet then 0 else dhSdkGetLastError c.lastError, c.target), p.dividedByZero⟩ := by
  simp [Player.ended, hspeed.ne']

lemma ends_loop {p : Player} {c : Call} (hspeed : 0 < p.speed) (change : ℚ → ℚ) (replaced : ℚ)
    (hpos : 0 < p.planned c.target) :
    Ends p c replaced (change p.rate)
      (p.ended c
        (loop change replaced c.answer (p.planned c.target) 0 (c.target, p.rate, true))) := by
  obtain ⟨n, hn⟩ := Nat.exists_eq_add_one.mpr hpos
  rw [Ends, hn]
  rcases loop_cases change replaced c.answer n 0 c.target p.rate true with
    ⟨h0, hloop⟩ | ⟨h0, ⟨j, -, hj, htrue⟩, hloop⟩ | ⟨hall, hloop⟩
  · rw [hloop, ended_of_speed hspeed]
    exact Or.inl ⟨h0, rfl⟩
  · rw [hloop, ended_of_speed hspeed]
    rw [Nat.zero_add] at htrue
    exact Or.inr (Or.inl ⟨h0, ⟨j, hj, htrue⟩, rfl⟩)
  · rw [hloop, ended_of_speed hspeed]
    refine Or.inr (Or.inr ⟨fun j hj => ?_, rfl⟩)
    have hfalse := hall j hj
    rwa [Nat.zero_add] at hfalse

lemma setSpeed_ends {p : Player} (c : Call) (hspeed : 0 < p.speed) :
    Ends p c (if c.target > p.speed then 2 * p.speed else 0) (p.change c.target)
      (p.setSpeed c) := by
  have hpos := planned_pos (c := c) hspeed
  by_cases hone : c.target = 1
  · have hplanned : p.planned c.target = 1 := if_pos hone
    rw [Player.setSpeed, if_pos hone, ended_of_speed hspeed, Player.change, if_pos hone, Ends,
      hplanned]
    cases h0 : c.answer 0 with
    | true => exact Or.inl ⟨rfl, rfl⟩
    | false =>
      refine Or.inr (Or.inr ⟨fun j hj => ?_, rfl⟩)
      rw [Nat.lt_one_iff.mp hj, h0]
  · by_cases hgt : c.target > p.speed
    · have hloop := ends_loop hspeed (fun r => 2 * r) (2 * p.speed) hpos
      rw [Player.setSpeed, Player.change, if_neg hone, if_pos hgt, if_neg hone, if_pos hgt,
        if_pos hgt]
      rwa [Player.planned, if_neg hone, if_pos hgt] at hloop
    · -- `1 / 2` is 0 in integers, so a slow call that fails sets the speed to 0
      have hloop := ends_loop hspeed (fun r => r / 2) (((1 / 2 : ℤ) : ℚ) * p.speed) hpos
      have hzero : ((1 / 2 : ℤ) : ℚ) * p.speed = 0 := by norm_num
      rw [Player.setSpeed, Player.change, if_neg hone, if_neg hgt, if_neg hone, if_neg hgt,
        if_neg hgt]
      rw [Player.planned, if_neg hone, if_neg hgt] at hloop
      rwa [hzero] at hloop ⊢

lemma change_eq_iff {p : Player} {target : ℚ} (hI : InStep p) (hspeed : 0 < p.speed) :
    p.change target = target ↔ target = 1 ∨ target = 2 * p.speed ∨ 2 * target = p.speed := by
  have hrate := hI.rate
  rw [Player.change]
  split_ifs with hone hgt
  · exact iff_of_true hone.symm (Or.inl hone)
  · constructor
    · exact fun h => Or.inr (Or.inl (by linarith))
    · rintro (h | h | h)
      · exact absurd h hone
      · linarith
      · linarith
  · constructor
    · exact fun h => Or.inr (Or.inr (by linarith))
    · rintro (h | h | h)
      · exact absurd h hone
      · linarith
      · linarith

/-- Where a later SDK call succeeds, the speed asked for is not the double of the current one. -/
lemma target_ne_double {p : Player} {c : Call} (hspeed : 0 < p.speed) (h0 : c.answer 0 = false)
    (h : ∃ j < p.planned c.target, c.answer j = true) : c.target ≠ 2 * p.speed := by
  intro hdouble
  obtain ⟨j, hj, htrue⟩ := h
  have hone : p.planned c.target = 1 := by
    rw [Player.planned]
    split_ifs with h1 h2
    · rfl
    · rw [hdouble, rounds_double hspeed]
    · exact absurd (show c.target > p.speed by linarith) h2
  rw [hone, Nat.lt_one_iff] at hj
  rw [hj, h0] at htrue
  exact absurd htrue (by simp)

lemma inStep_setSpeed_iff {p : Player} (c : Call) (hI : InStep p) (hspeed : 0 < p.speed) :
    InStep (p.setSpeed c) ↔ Follows p c := by
  have hpos := planned_pos (c := c) hspeed
  rcases setSpeed_ends c hspeed with ⟨h0, heq⟩ | ⟨h0, hlater, heq⟩ | ⟨hall, heq⟩
  · -- the first SDK call succeeds
    rw [heq]
    constructor
    · intro h
      exact Or.inl ⟨h0, (change_eq_iff hI hspeed).mp h.rate.symm⟩
    · rintro (⟨-, htarget⟩ | ⟨hall, -⟩)
      · have hchange := (change_eq_iff hI hspeed).mpr htarget
        refine ⟨hchange.symm, c.positive.ne', ?_, hI.divided⟩
        rintro target ⟨⟩
        exact ⟨rfl, hchange⟩
      · exact absurd (hall 0 hpos) (by simp [h0])
  · -- a later one does
    rw [heq]
    refine iff_of_false (fun h => ?_) ?_
    · by_cases hgt : c.target > p.speed
      · have hreached := (h.reached c.target rfl).1
        rw [if_pos hgt] at hreached
        exact target_ne_double hspeed h0 hlater hreached.symm
      · exact h.speed_ne (if_neg hgt)
    · rintro (⟨htrue, -⟩ | ⟨hall, -⟩)
      · exact absurd htrue (by simp [h0])
      · obtain ⟨j, hj, htrue⟩ := hlater
        exact absurd (hall j hj) (by simp [htrue])
  · -- none does, and nothing has changed
    rw [heq]
    have h0 := hall 0 hpos
    constructor
    · intro h
      refine Or.inr ⟨hall, ?_⟩
      by_cases herr : dhSdkGetLastError c.lastError = 0
      · exact Or.inr (h.reached c.target (by rw [herr])).1.symm
      · exact Or.inl herr
    · rintro (⟨htrue, -⟩ | ⟨-, herr⟩)
      · exact absurd htrue (by simp [h0])
      · refine ⟨hI.rate, hI.speed_ne, ?_, hI.divided⟩
        intro target htarget
        have hlast := Option.some.inj htarget
        rw [Prod.mk.injEq] at hlast
        rcases herr with herr | heq'
        · exact absurd hlast.1 herr
        · exact ⟨heq'.symm.trans hlast.2, hI.rate ▸ heq'.symm.trans hlast.2⟩

lemma speed_pos_of_follows {p : Player} {c : Call} (hspeed : 0 < p.speed) (h : Follows p c) :
    0 < (p.setSpeed c).speed := by
  rcases setSpeed_ends c hspeed with ⟨-, heq⟩ | ⟨h0, ⟨j, hj, htrue⟩, -⟩ | ⟨-, heq⟩
  · rw [heq]
    exact c.positive
  · rcases h with ⟨h, -⟩ | ⟨hall, -⟩
    · exact absurd h (by simp [h0])
    · exact absurd (hall j hj) (by simp [htrue])
  · rw [heq]
    exact hspeed

lemma documentedSpeeds_pos : ∀ speed ∈ documentedSpeeds, 0 < speed := by
  simp [documentedSpeeds]

lemma four_documented : 4 ∈ documentedSpeeds := by
  simp [documentedSpeeds]

lemma quarter_documented : 1 / 4 ∈ documentedSpeeds := by
  simp [documentedSpeeds]

lemma inStep_start : InStep .start where
  rate := rfl
  speed_ne := one_ne_zero
  reached := fun target h => absurd h (by simp [Player.start])
  divided := rfl

/-- The recorded speed is the rate of the device, is the speed asked for after every call that
returns `0`, and is not `0`, in every state of a run of calls, exactly if the device follows at each
call. -/
theorem inStep_iff (cs : List Call) :
    Run.Always step InStep .start cs ↔ Run.Meets step Follows .start cs := by
  have htotal : ∀ p c, ∃ p', step p c = some p' := fun p c => ⟨p.setSpeed c, rfl⟩
  obtain ⟨p, hrun⟩ := Run.exists_run htotal .start cs
  refine Run.always_iff_meets (I := fun p => InStep p ∧ 0 < p.speed) (fun _ h => h.1) ?_ ?_ ?_ hrun
  · rintro p c p' ⟨hI, hspeed⟩ hc ⟨⟩
    exact ⟨(inStep_setSpeed_iff c hI hspeed).mpr hc, speed_pos_of_follows hspeed hc⟩
  · rintro p c p' ⟨hI, hspeed⟩ hc ⟨⟩ h
    exact hc ((inStep_setSpeed_iff c hI hspeed).mp h)
  · exact ⟨inStep_start, one_pos⟩

/-- One call for the speed 4, whose first SDK call succeeds, or one for the speed 1/4, whose second
one does: the device plays at 2, or at 1/2 while the recorded speed is 0. -/
theorem speed_out_of_step :
    ¬ Run.Always step InStep .start
        [⟨4, documentedSpeeds_pos 4 four_documented, fun _ => true, 0⟩] ∧
      ¬ Run.Always step InStep .start
        [⟨1 / 4, documentedSpeeds_pos (1 / 4) quarter_documented, fun i => i = 1, 0⟩] := by
  have hspeed : 0 < Player.start.speed := one_pos
  constructor
  · intro h
    have hfollows := (inStep_setSpeed_iff _ inStep_start hspeed).mp (h _ List.prefix_rfl _ rfl)
    -- 4 is two steps from 1, and the loop ends after the first that succeeds
    rcases hfollows with ⟨-, h | h | h⟩ | ⟨hall, -⟩
    · norm_num at h
    · norm_num [Player.start] at h
    · norm_num [Player.start] at h
    · exact absurd (hall 0 (planned_pos hspeed)) (by simp)
  · intro h
    have hfollows := (inStep_setSpeed_iff _ inStep_start hspeed).mp (h _ List.prefix_rfl _ rfl)
    have hsqrt : Nat.sqrt 4 = 2 := Nat.sqrt_eq 2
    have hplanned : Player.start.planned (1 / 4) = 2 := by
      norm_num [Player.planned, Player.start, rounds, hsqrt]
    -- the first step fails and the second succeeds
    rcases hfollows with ⟨hzero, -⟩ | ⟨hall, -⟩
    · exact absurd hzero (by simp)
    · exact absurd (hall 1 (by rw [hplanned]; decide)) (by simp)

end Speed

end DHGateway
