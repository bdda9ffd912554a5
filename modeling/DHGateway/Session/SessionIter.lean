import DHGateway.Session.SessionMange

/-!
# The loop of `DisconnetPlaySession`

The loop erases the entry that its iterator stands at and then advances that iterator, which is no
longer valid.
-/

namespace DHGateway

namespace SessionMap

variable {α : Type}

/-- `SessionMange::DisconnetPlaySession` ends in this way. -/
def DisconnetEnds (m : SessionMap α) (getClihandle : α → NETHANDLE) (clihandle : NETHANDLE)
    (r : Except MapIter.Error (SessionMap α)) : Prop :=
  MapIter.Ends (disconnetBody getClihandle clihandle) m r

def HasClihandle (m : SessionMap α) (getClihandle : α → NETHANDLE) (clihandle : NETHANDLE) :
    Prop :=
  ∃ key p, m.getPlaySession key = some p ∧ getClihandle p = clihandle

instance (m : SessionMap α) (getClihandle : α → NETHANDLE) (clihandle : NETHANDLE) :
    Decidable (m.HasClihandle getClihandle clihandle) :=
  decidable_of_iff (∃ e ∈ m.entries, getClihandle e.2 = clihandle)
    ⟨fun ⟨e, he, hc⟩ => ⟨e.1, e.2, AList.mem_lookup_iff.mpr he, hc⟩,
      fun ⟨key, p, hp, hc⟩ => ⟨⟨key, p⟩, AList.mem_lookup_iff.mp hp, hc⟩⟩

variable {m : SessionMap α} {getClihandle : α → NETHANDLE} {clihandle : NETHANDLE}

lemma keeps_of_ne {keys : List String}
    (h : ∀ key ∈ keys, ∀ p, m.getPlaySession key = some p → getClihandle p ≠ clihandle) :
    MapIter.Keeps (disconnetBody getClihandle clihandle) m keys := by
  intro key hkey p hp
  exact if_neg fun heq => h key hkey p hp heq.symm

lemma disconnetPlaySession_of_not (h : ¬ m.HasClihandle getClihandle clihandle) :
    m.disconnetPlaySession getClihandle clihandle = .ok m ∧
      m.DisconnetEnds getClihandle clihandle (.ok m) := by
  have hkeep : MapIter.Keeps (disconnetBody getClihandle clihandle) m m.keys :=
    keeps_of_ne fun key _ p hp heq => h ⟨key, p, hp, heq⟩
  have hloop := MapIter.loop_of_keeps hkeep
  exact ⟨by rw [disconnetPlaySession, hloop, Option.getD_some], _, hloop⟩

/-- The first session of the connection is where the loop fails. -/
lemma disconnetPlaySession_of_has (h : m.HasClihandle getClihandle clihandle) :
    m.disconnetPlaySession getClihandle clihandle = .error .invalidIterator ∧
      m.DisconnetEnds getClihandle clihandle (.error .invalidIterator) := by
  obtain ⟨key, p, hp, hc⟩ := h
  let matched (k : String) : Bool := (m.getPlaySession k).any fun p => getClihandle p = clihandle
  have hkey : key ∈ m.keys := AList.mem_keys.mp (mem_of_getPlaySession hp)
  have hmatched : matched key := by simp [matched, hp, hc]
  obtain ⟨k, mid, post, hmid, hk, hkeys, -⟩ := List.exists_of_eraseP hkey hmatched
  obtain ⟨q, hq, hqc⟩ : ∃ q, m.getPlaySession k = some q ∧ getClihandle q = clihandle := by
    obtain ⟨q, hq, hqc⟩ := (Option.any_eq_true _ _).mp hk
    exact ⟨q, hq, of_decide_eq_true hqc⟩
  -- the first match erases the entry that the iterator stands on
  have hbody : k ∉ disconnetBody getClihandle clihandle m k q := by
    rw [disconnetBody, if_pos hqc.symm]
    exact fun hmem => (AList.mem_erase.mp hmem).1 rfl
  -- the entries before it are passed over
  have hkeep : MapIter.Keeps (disconnetBody getClihandle clihandle) m mid := by
    apply keeps_of_ne
    intro k' hk' p' hp' heq
    exact hmid k' hk' (by simp [matched, hp', heq])
  have hloop := MapIter.loop_of_erases hq hbody hkeys hkeep
  exact ⟨by rw [disconnetPlaySession, hloop, Option.getD_some], _, hloop⟩

/-- `DisconnetPlaySession` reaches no iterator error, ends, and removes exactly the sessions of the
connection, if and only if the map has no session of the connection. -/
theorem disconnet_removes_exactly_iff (m : SessionMap α) (getClihandle : α → NETHANDLE)
    (clihandle : NETHANDLE) :
    (∃ m', m.DisconnetEnds getClihandle clihandle (.ok m') ∧
      ∀ key p, m'.getPlaySession key = some p ↔
        m.getPlaySession key = some p ∧ getClihandle p ≠ clihandle) ↔
    ∀ key p, m.getPlaySession key = some p → getClihandle p ≠ clihandle := by
  constructor
  · rintro ⟨m', hends, -⟩ key p hp hc
    cases MapIter.ends_unique hends (disconnetPlaySession_of_has ⟨key, p, hp, hc⟩).2
  · intro h
    refine ⟨m, (disconnetPlaySession_of_not ?_).2, ?_⟩
    · rintro ⟨key, p, hp, hc⟩
      exact h key p hp hc
    · intro key p
      constructor
      · exact fun hp => ⟨hp, h key p hp⟩
      · exact And.left

/-- One session, of the connection that is closed. -/
theorem disconnet_iterator_error :
    ¬ ∃ m', SessionMap.DisconnetEnds
        (AList.singleton "s1" { PlaySession.zeroed with nMediaClient := 7 })
        PlaySession.nMediaClient 7 (.ok m') ∧
      ∀ key p, m'.getPlaySession key = some p ↔
        SessionMap.getPlaySession
          (AList.singleton "s1" { PlaySession.zeroed with nMediaClient := 7 }) key = some p ∧
          p.nMediaClient ≠ 7 := by
  rintro ⟨m', hends, -⟩
  have hhas : HasClihandle (AList.singleton "s1" { PlaySession.zeroed with nMediaClient := 7 })
      PlaySession.nMediaClient 7 := ⟨"s1", _, rfl, rfl⟩
  cases MapIter.ends_unique hends (disconnetPlaySession_of_has hhas).2

end SessionMap

end DHGateway
