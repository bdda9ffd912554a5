import DHGateway.Server.ChannelId

/-!
# The channels of a recorder

`get_camera_list` joins three answers of the SDK by their positions, and `channel_sync` announces
the channels that have a name. The entries of the state answer carry a channel number of their own,
which is not looked at.
-/

namespace DHGateway

open Json

namespace CameraAnswers

variable (a : CameraAnswers)

/-- A channel that has a name and a camera. -/
def Listed (i : ℕ) : Prop :=
  a.szChannelName i ≠ "" ∧ (a.stuRemoteDevice i).szIp ≠ "192.168.0.0"

/-- The state answer has an entry for the channel that is connected. -/
def Connected (i : ℕ) : Prop :=
  ∃ e ∈ a.states, e.nChannel = i ∧ e.connected = true

instance (i : ℕ) : Decidable (a.Listed i) := by unfold Listed; infer_instance

instance (i : ℕ) : Decidable (a.Connected i) := by unfold Connected; infer_instance

/-- The announced channels are the listed ones in increasing order, each with the state that the
answer has for it. -/
structure Attributed (n : ℕ) (details : List Json) : Prop where
  channelNum : details.map (Json.member "channelNum") =
    ((List.range n).filter fun i => a.Listed i).map fun i : ℕ => some (Json.num i)
  online : ∀ e ∈ details, ∀ i : ℕ, e.member "channelNum" = some (.num i) →
    (e.member "online" = some (.num 1) ↔ a.Connected i)

/-- For every listed channel the slot of `camera_state` at its index, an entry of the answer or
what the memory held behind them, is connected just if the entry of that channel is. -/
def Positional (n : ℕ) : Prop :=
  ∀ i < n, a.Listed i → ((a.states.getD i (a.stateMem i)).connected = true ↔ a.Connected i)

/-- The calls for the channels' names, cameras and states all succeed. -/
structure Succeed : Prop where
  getDevConfig : a.getDevConfig.ok = true
  matrixGetCameras : a.matrixGetCameras.ok = true
  queryDevInfo : a.queryDevInfo = true

variable {a}

lemma device_of_listed {i : ℕ} (h : a.Listed i) :
    (a.device i).name = a.szChannelName i ∧ (a.device i).id = i ∧
      (a.device i).online = (a.cameraState i).connected := by
  rw [device, if_pos h.2]
  exact ⟨rfl, rfl, rfl⟩

/-- A channel without a camera keeps the default record, which has no name. -/
lemma device_name_ne_iff (i : ℕ) : (a.device i).name ≠ "" ↔ a.Listed i := by
  by_cases hip : (a.stuRemoteDevice i).szIp ≠ "192.168.0.0"
  · rw [device, if_pos hip]
    exact ⟨fun hname => ⟨hname, hip⟩, fun h => h.1⟩
  · rw [device, if_neg hip]
    exact ⟨fun hname => absurd rfl hname, fun h => absurd h.2 hip⟩

lemma getCameraList_list {env : Env} {login : LoginResults} {ret : ℤ} {list : List Device}
    {calls : List DeviceCall} (hs : a.Succeed)
    (h : getCameraList env login a = .ok (ret, list, calls)) :
    list = (List.range login.chanNum.toNat).map a.device := by
  simp only [getCameraList, hs.getDevConfig, hs.matrixGetCameras, Bool.not_true,
    Bool.false_eq_true, if_false] at h
  split_ifs at h with h0
  · cases h
    rw [h0]
    rfl
  all_goals
    cases h
    rfl

lemma channelDetailList_devices (c : Config) (platform : Platform) (time : String) (n : ℕ) :
    channelDetailList (c.channelSync ((List.range n).map a.device) platform time) =
      ((List.range n).filter fun i => a.Listed i).map fun i =>
        c.channelEntity platform (a.device i) := by
  rw [channelDetailList_channelSync, List.filter_map, List.map_map]
  congr 1
  apply List.filter_congr
  intro i _
  exact decide_eq_decide.mpr (device_name_ne_iff i)

lemma online_iff {c : Config} {platform : Platform} {i : ℕ} (hs : a.Succeed) (h : a.Listed i) :
    (c.channelEntity platform (a.device i)).member "online" = some (.num 1) ↔
      (a.states.getD i (a.stateMem i)).connected = true := by
  have hmember : (c.channelEntity platform (a.device i)).member "online" =
      some (.num (a.device i).online.toInt) := rfl
  have hslot : (a.device i).online = (a.states.getD i (a.stateMem i)).connected := by
    rw [(device_of_listed h).2.2, cameraState, if_pos hs.queryDevInfo]
  rw [hmember, hslot]
  cases (a.states.getD i (a.stateMem i)).connected <;> simp

/-- The states are announced for the channels that they belong to exactly if the answer and the
memory are positional. -/
theorem channels_attributed_iff (env : Env) (login : LoginResults) (platform : Platform)
    (time : String) {ret : ℤ} {list : List Device} {calls : List DeviceCall} (hs : a.Succeed)
    (h : getCameraList env login a = .ok (ret, list, calls)) :
    a.Attributed login.chanNum.toNat
        (channelDetailList (env.channelSync list platform time)) ↔
      a.Positional login.chanNum.toNat := by
  obtain rfl := getCameraList_list hs h
  rw [channelDetailList_devices]
  have hnum : ∀ i, a.Listed i → (env.channelEntity platform (a.device i)).member "channelNum" =
      some (.num i) := by
    intro i hi
    show some (Json.num (a.device i).id) = _
    rw [(device_of_listed hi).2.1]
  constructor
  · intro hatt i hlt hi
    have hmem : i ∈ (List.range login.chanNum.toNat).filter fun i => a.Listed i :=
      List.mem_filter.mpr ⟨List.mem_range.mpr hlt, decide_eq_true hi⟩
    rw [← hatt.online _ (List.mem_map_of_mem hmem) i (hnum i hi), online_iff hs hi]
  · intro hpos
    constructor
    · rw [List.map_map]
      apply List.map_congr_left
      intro i hi
      exact hnum i (of_decide_eq_true (List.mem_filter.mp hi).2)
    · -- each entry is that of one listed channel, which its number tells
      intro e he i hei
      obtain ⟨j, hj, rfl⟩ := List.mem_map.mp he
      obtain ⟨hlt, hlisted⟩ := List.mem_filter.mp hj
      have hlisted : a.Listed j := of_decide_eq_true hlisted
      rw [hnum j hlisted] at hei
      have hij : j = i := by simpa using hei
      subst hij
      rw [online_iff hs hlisted]
      exact hpos j (List.mem_range.mp hlt) hlisted

/-- An answer with an entry for every channel, in the order of the channels, is positional. -/
lemma positional_of_inOrder {n : ℕ} (hlen : a.states.length = n)
    (h : ∀ (i : ℕ) (e : CameraState), a.states[i]? = some e → e.nChannel = i) : a.Positional n := by
  intro i hlt _
  have hi : a.states[i]? = some a.states[i] := List.getElem?_eq_getElem (hlen ▸ hlt)
  rw [List.getD_eq_getElem?_getD, hi, Option.getD_some]
  constructor
  · exact fun hcon => ⟨_, List.mem_of_getElem? hi, h i _ hi, hcon⟩
  · rintro ⟨e, he, hnum, hcon⟩
    obtain ⟨j, hj⟩ := List.getElem?_of_mem he
    have hij : (i : ℤ) = j := hnum.symm.trans (h j e hj)
    rw [← Int.ofNat.inj hij, hi] at hj
    exact Option.some.inj hj ▸ hcon

/-- Answers for a recorder with two cameras, with the state answer and the memory behind it. -/
def twoCameras (states : List CameraState) (stateMem : ℕ → CameraState) : CameraAnswers where
  getDevConfig := ⟨true, 0⟩
  szChannelName i := if i = 0 then "gate" else "yard"
  matrixGetCameras := ⟨true, 0⟩
  stuRemoteDevice _ := ⟨"10.0.0.5", 37777, "admin", ""⟩
  queryDevInfo := true
  states := states
  stateMem := stateMem
  queryRemotDevState _ := none
  queryDevState _ := none

def twoDetails (states : List CameraState) (stateMem : ℕ → CameraState) : List Json :=
  channelDetailList (Env.plain.channelSync
    [(twoCameras states stateMem).device 0, (twoCameras states stateMem).device 1]
    (Platform.new "17") "")

/-- An answer in the order of the channels. -/
theorem channels_attributed_in_order :
    (twoCameras [⟨0, true⟩, ⟨1, false⟩] fun _ => ⟨0, true⟩).Attributed 2
      (twoDetails [⟨0, true⟩, ⟨1, false⟩] fun _ => ⟨0, true⟩) := by
  have hs : (twoCameras [⟨0, true⟩, ⟨1, false⟩] fun _ => ⟨0, true⟩).Succeed := ⟨rfl, rfl, rfl⟩
  refine (channels_attributed_iff Env.plain ⟨1, 2, 0, ""⟩ _ _ hs rfl).mpr ?_
  apply positional_of_inOrder rfl
  intro i e he
  rcases i with _ | _ | i
  · exact Option.some.inj he ▸ rfl
  · exact Option.some.inj he ▸ rfl
  · exact absurd he (by simp [twoCameras])

/-- The entry of the second channel comes first, and the first channel is announced with its state;
the same where it is the only entry; and a channel without an entry is announced with what the
memory held. -/
theorem channels_not_attributed :
    ¬ (twoCameras [⟨1, true⟩, ⟨0, false⟩] fun _ => ⟨0, false⟩).Attributed 2
        (twoDetails [⟨1, true⟩, ⟨0, false⟩] fun _ => ⟨0, false⟩) ∧
      ¬ (twoCameras [⟨1, true⟩] fun _ => ⟨0, false⟩).Attributed 2
        (twoDetails [⟨1, true⟩] fun _ => ⟨0, false⟩) ∧
      ¬ (twoCameras [⟨0, true⟩] fun _ => ⟨0, true⟩).Attributed 2
        (twoDetails [⟨0, true⟩] fun _ => ⟨0, true⟩) := by
  refine ⟨fun h => ?_, fun h => ?_, fun h => ?_⟩
  · exact absurd ((h.online _ List.mem_cons_self 0 rfl).mp rfl) (by decide)
  · exact absurd ((h.online _ List.mem_cons_self 0 rfl).mp rfl) (by decide)
  · exact absurd ((h.online _ (List.mem_cons_of_mem _ List.mem_cons_self) 1 rfl).mp rfl)
      (by decide)

end CameraAnswers

end DHGateway
