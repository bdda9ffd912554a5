import DHGateway.Server.ChannelId
import DHGateway.Server.Roster

/-!
# Identifiers of the recorders

The constructor of a recorder makes its identifier from the clock and a random number. Where no two
constructors read the same time and draw the same number, no two recorders and no two channels of
the gateway have the same name, over all restarts.
-/

namespace DHGateway

/-- What the constructor `Platform::Platform` takes: the milliseconds of the clock, which have
thirteen digits from 2001 to 2286, and the number of `uniform_int_distribution`. -/
structure Draw where
  millis : ℕ
  randomPart : ℕ
  millis_length : (Nat.toDigits 10 millis).length = 13
  randomPart_mem : 1 ≤ randomPart ∧ randomPart ≤ 1000

namespace Draw

def deviceId (d : Draw) : String :=
  toString d.millis ++ toString d.randomPart

lemma toList_deviceId (d : Draw) :
    d.deviceId.toList = Nat.toDigits 10 d.millis ++ Nat.toDigits 10 d.randomPart := by
  rw [deviceId, String.toList_append, Nat.toString_eq_repr, Nat.toString_eq_repr, Nat.toList_repr,
    Nat.toList_repr]

lemma deviceId_injective : Function.Injective deviceId := by
  rintro ⟨millis, rand, hlen, _⟩ ⟨millis', rand', hlen', _⟩ h
  have hlist := congrArg String.toList h
  rw [toList_deviceId, toList_deviceId] at hlist
  obtain ⟨hmillis, hrand⟩ := List.append_inj hlist (hlen.trans hlen'.symm)
  obtain rfl := Scan.toDigits_injective hmillis
  obtain rfl := Scan.toDigits_injective hrand
  rfl

lemma sep_not_mem_deviceId (d : Draw) : '#' ∉ d.deviceId.toList := by
  rw [toList_deviceId]
  intro hmem
  have hdigit : '#'.isDigit = true := by
    rcases List.mem_append.mp hmem with h | h
    · exact Nat.isDigit_of_mem_toDigits (by decide) (by decide) h
    · exact Nat.isDigit_of_mem_toDigits (by decide) (by decide) h
  exact absurd hdigit (by decide)

end Draw

/-! ### What an event does to the identifiers -/

namespace Registry

variable {x : XPack} {r : Registry}

lemma ids_delPlatform (h : r.Mirrored x) (opens : Bool) (k : String) :
    (r.delPlatform x opens k).2.ids = r.ids := by
  cases hk : r.platformMap.lookup k with
  | none => rw [delPlatform_of_none hk]
  | some q =>
    obtain ⟨_, ps', hdel, hids, _⟩ := delPlatform_spec h opens hk
    rw [hdel]
    exact hids

end Registry

namespace Server

variable {env : Env} {s s' : Server}

/-- The identifier that the constructor of a task's recorder makes. -/
def Event.newId : Event → Option String
  | .task _ a => some a.newId
  | .upload _ | .restart _ _ => none

/-- A task brings the identifier of its own constructor into use, and other events none. -/
lemma mem_ids_step (h : s.registry.Mirrored env.xpack) {e : Event} (hs : step env s e = some s')
    {k : String} (hk : k ∈ s'.registry.ids) : k ∈ s.registry.ids ∨ e.newId = some k := by
  cases e with
  | task doc a =>
    rw [← Option.some.inj hs] at hk
    cases handle_effect env s doc a with
    | quiet hq => exact Or.inl (hq.registry ▸ hk)
    | totalSync _ hreg => exact Or.inl (hreg ▸ hk)
    | add p _ _ hid hreg =>
      rw [hreg] at hk
      rw [Registry.ids_addPlatform] at hk
      rcases List.mem_append.mp hk with hk | hk
      · exact Or.inl hk
      · exact Or.inr (congrArg some (hid.symm.trans (List.mem_singleton.mp hk).symm))
    | del _ hreg =>
      rw [hreg, Registry.ids_delPlatform h] at hk
      exact Or.inl hk
  | upload time =>
    rw [← Option.some.inj hs, uploadDevices_registry] at hk
    exact Or.inl hk
  | restart tempPtzCmd msgId =>
    rw [← Option.some.inj hs] at hk
    left
    -- the file has no identifier that the list had not
    rw [Registry.ids, startServer, Registry.initPlatform_boot_list] at hk
    exact h.file.subset hk

end Server

namespace Served

open Server

variable {env : Env} {s s' : Served} {e : Event}

lemma fresh_iff : s.Fresh e ↔ ∀ k, e.newId = some k → k ∉ s.server.registry.ids := by
  cases e with
  | task doc a =>
    constructor
    · rintro h k hk
      exact Option.some.inj hk ▸ h
    · exact fun h => h a.newId rfl
  | upload | restart =>
    constructor
    · exact fun _ _ hk => nomatch hk
    · exact fun _ => trivial

lemma step_ids (hx : env.xpack.Lawful) (s : Served) (e : Event) (s' : Served)
    (h : s.server.registry.Mirrored env.xpack)
    (hfresh : ∀ k, e.newId = some k → k ∉ s.server.registry.ids) (hs : s.step env e = some s') :
    s'.server.registry.Mirrored env.xpack ∧
      ∀ k ∈ s'.server.registry.ids, k ∈ s.server.registry.ids ∨ e.newId = some k := by
  obtain ⟨server, hserver, rfl⟩ := Option.map_eq_some_iff.mp hs
  refine ⟨step_mirrored hx h ?_ hserver, fun k hk => mem_ids_step h hserver hk⟩
  cases e with
  | task doc a => exact fun _ => hfresh a.newId rfl
  | upload | restart => trivial

/-- The names of the channels, in all the lists that `channel_sync` can make of these recorders. -/
lemma channelId_names {ds : List Draw} {ids : List String} (h : ids ⊆ ds.map Draw.deviceId)
    {k k' : String} (hk : k ∈ ids) (hk' : k' ∈ ids) {n n' : ℤ}
    (hname : k ++ "#" ++ toString n = k' ++ "#" ++ toString n') : k = k' ∧ n = n' := by
  have hsep : ∀ k ∈ ids, '#' ∉ k.toList := by
    intro k hk
    obtain ⟨d, _, rfl⟩ := List.mem_map.mp (h hk)
    exact d.sep_not_mem_deviceId
  obtain ⟨hid, hrepr⟩ := channelId_inj (hsep k hk) (hsep k' hk') hname
  exact ⟨hid, Scan.repr_injective hrepr⟩

/-- From the first start on, over requests, uploads and restarts, as long as the milliseconds of the
clock have thirteen digits: where no two constructors draw the same, each identifier is new when it
is made, no two recorders have the same one, and no two channels have the same name. -/
theorem deviceIds_distinct (hx : env.xpack.Lawful) {tempPtzCmd : ℕ} {msgId : ℤ} {as : List Event}
    {ds : List Draw} (hdraws : as.filterMap Event.newId = ds.map Draw.deviceId)
    (hdistinct : ds.Nodup)
    (hrun : Run.run (step env) (start env tempPtzCmd msgId) as = some s) :
    Run.Meets (step env) Fresh (start env tempPtzCmd msgId) as ∧ s.server.registry.ids.Nodup ∧
      ∀ k ∈ s.server.registry.ids, ∀ k' ∈ s.server.registry.ids, ∀ n n' : ℤ,
        k ++ "#" ++ toString n = k' ++ "#" ++ toString n' → k = k' ∧ n = n' := by
  have hnodup : (as.filterMap Event.newId).Nodup := by
    rw [hdraws]
    exact hdistinct.map Draw.deviceId_injective
  have hstart : (start env tempPtzCmd msgId).server.registry.Mirrored env.xpack :=
    Registry.boot_mirrored List.nodup_nil
  have hempty : (start env tempPtzCmd msgId).server.registry.ids = [] := rfl
  -- what is drawn is fresh as long as no two recorders draw the same
  have hfresh := Run.meets_fresh (step_ids hx) hstart hnodup (by simp [hempty])
  have hmeets : Run.Meets (step env) Fresh (start env tempPtzCmd msgId) as :=
    Run.meets_of_invariant (fun _ _ _ h hc hs => (step_ids hx _ _ _ h hc hs).1)
      (fun _ _ _ hc => fresh_iff.mpr hc) hstart hfresh
  have hmirrored : s.server.registry.Mirrored env.xpack :=
    Run.run_invariant (fun _ _ _ h hc hs => (step_ids hx _ _ _ h hc hs).1) hstart hfresh hrun
  have hids : s.server.registry.ids ⊆ ds.map Draw.deviceId := by
    intro k hk
    obtain hk | hk := Run.mem_used_of_run (step_ids hx) hstart hfresh hrun hk
    · exact absurd hk (by simp [hempty])
    · exact hdraws ▸ hk
  exact ⟨hmeets, hmirrored.nodup, fun k hk k' hk' n n' hname => channelId_names hids hk hk' hname⟩

/-- Two recorders whose constructors ran in the same millisecond. -/
def sameMillisecond : List Draw :=
  [⟨1700733608331, 580, by decide, by decide⟩, ⟨1700733608331, 581, by decide, by decide⟩]

def addTwice : List Event :=
  [addRecorder,
    match addRecorder with
    | .task doc a => .task doc { a with newId := "1700733608331581" }
    | e => e]

theorem deviceIds_distinct_two :
    ∃ s, Run.run (step Env.plain) (start Env.plain 0 3) addTwice = some s ∧
      s.server.registry.ids = ["1700733608331580", "1700733608331581"] ∧
      Run.Meets (step Env.plain) Fresh (start Env.plain 0 3) addTwice := by
  refine ⟨_, rfl, rfl, ?_⟩
  have hdraws : addTwice.filterMap Event.newId = sameMillisecond.map Draw.deviceId := by decide
  have hdistinct : sameMillisecond.Nodup := List.Nodup.of_map Draw.deviceId (by decide)
  exact (deviceIds_distinct XPack.json_lawful hdraws hdistinct rfl).1

end Served

end DHGateway
