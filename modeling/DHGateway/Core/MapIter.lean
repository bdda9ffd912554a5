import Mathlib.Data.List.AList

/-!
# Iterators of a hash map

A map whose iterators stand at keys: an iterator is valid while its key is in the map, and to
advance another one is an error. Erasing an entry leaves the order of the others as it is. A loop
over a map may change the map that it runs over.
-/

namespace MapIter

variable {κ α : Type*} [DecidableEq κ]

abbrev Map (κ α : Type*) := AList fun _ : κ => α

/-- An iterator: at a key, or `none` for `end()`. -/
abbrev Iter (κ : Type*) := Option κ

/-- `begin()`. -/
def begin (m : Map κ α) : Iter κ :=
  m.keys.head?

/-- `++it` for an iterator at a key; `none` when the iterator is not valid. -/
def next (m : Map κ α) (k : κ) : Option (Iter κ) :=
  if k ∈ m then some (m.keys.dropWhile fun k' => k' ≠ k).tail.head? else none

/-- An iterator was used that is not valid. -/
inductive Error where
  | invalidIterator
  deriving DecidableEq

/-- `for (auto it = m.begin(); it != m.end(); ++it)` from an iterator on; `none` when the loop has
not ended after so many rounds. -/
def loop (body : Map κ α → κ → α → Map κ α) : ℕ → Map κ α → Iter κ →
    Option (Except Error (Map κ α))
  | 0, _, _ => none
  | _ + 1, m, none => some (.ok m)
  | n + 1, m, some k =>
    match m.lookup k with
    | none => some (.error .invalidIterator)
    | some v =>
      let m := body m k v
      match next m k with
      | none => some (.error .invalidIterator)
      | some it => loop body n m it

/-- The loop over the whole map ends with this outcome. -/
def Ends (body : Map κ α → κ → α → Map κ α) (m : Map κ α) (r : Except Error (Map κ α)) : Prop :=
  ∃ n, loop body n m (begin m) = some r

variable {body : Map κ α → κ → α → Map κ α} {m : Map κ α}

lemma next_eq_none {k : κ} : next m k = none ↔ k ∉ m := by
  simp [next]

lemma next_of_keys {k : κ} {pre post : List κ} (h : m.keys = pre ++ k :: post) :
    next m k = some post.head? := by
  have hmem : k ∈ m := by
    rw [AList.mem_keys, h]
    exact List.mem_append_right _ List.mem_cons_self
  have hnodup : (pre ++ k :: post).Nodup := h ▸ m.keys_nodup
  have hpre : ∀ k' ∈ pre, k' ≠ k := by
    intro k' hk' heq
    exact (List.nodup_append.mp hnodup).2.2 k' hk' k List.mem_cons_self heq
  have hdrop : (pre ++ k :: post).dropWhile (fun k' => k' ≠ k) = k :: post := by
    rw [List.dropWhile_append_of_pos (by simpa using hpre)]
    simp
  rw [next, if_pos hmem, h, hdrop, List.tail_cons]

lemma loop_succ {n : ℕ} {m : Map κ α} {it : Iter κ} {r : Except Error (Map κ α)}
    (h : loop body n m it = some r) : loop body (n + 1) m it = some r := by
  induction n generalizing m it with
  | zero => exact absurd h (by simp [loop])
  | succ n ih =>
    cases it with
    | none => exact h
    | some k =>
      rw [loop] at h ⊢
      cases hv : m.lookup k with
      | none => rw [hv] at h; exact h
      | some v =>
        simp only [hv] at h ⊢
        cases hnext : next (body m k v) k with
        | none => rw [hnext] at h; exact h
        | some it =>
          simp only [hnext] at h ⊢
          exact ih h

lemma loop_le {n n' : ℕ} (hle : n ≤ n') {it : Iter κ} {r : Except Error (Map κ α)}
    (h : loop body n m it = some r) : loop body n' m it = some r := by
  induction hle with
  | refl => exact h
  | step _ ih => exact loop_succ ih

lemma ends_unique {r r' : Except Error (Map κ α)} (h : Ends body m r) (h' : Ends body m r') :
    r = r' := by
  obtain ⟨n, hn⟩ := h
  obtain ⟨n', hn'⟩ := h'
  have hmax := loop_le (Nat.le_max_left n n') hn
  rw [loop_le (Nat.le_max_right n n') hn'] at hmax
  exact (Option.some.inj hmax).symm

/-- The entries of `mid` leave the map as it is. -/
def Keeps (body : Map κ α → κ → α → Map κ α) (m : Map κ α) (mid : List κ) : Prop :=
  ∀ k ∈ mid, ∀ v, m.lookup k = some v → body m k v = m

lemma loop_keeps {pre mid post : List κ} (h : m.keys = pre ++ (mid ++ post))
    (hkeep : Keeps body m mid) (n : ℕ) :
    loop body (n + mid.length) m (mid ++ post).head? = loop body n m post.head? := by
  induction mid generalizing pre with
  | nil => rfl
  | cons k mid ih =>
    have hmem : k ∈ m := by
      rw [AList.mem_keys, h]
      simp
    obtain ⟨v, hv⟩ := Option.isSome_iff_exists.mp (AList.lookup_isSome.mpr hmem)
    have hnext : next m k = some (mid ++ post).head? := next_of_keys h
    have hkeys : m.keys = (pre ++ [k]) ++ (mid ++ post) := by simp [h]
    have hrest := ih hkeys fun k hk => hkeep k (List.mem_cons_of_mem _ hk)
    rw [List.length_cons, ← Nat.add_assoc, List.cons_append, List.head?_cons, loop, hv]
    dsimp only
    rw [hkeep k List.mem_cons_self v hv, hnext]
    exact hrest

lemma loop_of_keeps (hkeep : Keeps body m m.keys) :
    loop body (m.keys.length + 1) m (begin m) = some (.ok m) := by
  have hkeys : m.keys = [] ++ (m.keys ++ []) := by simp
  have h := loop_keeps hkeys hkeep 1
  rwa [List.append_nil, Nat.add_comm] at h

/-- A loop that erases the entry that its iterator stands at fails there. -/
lemma loop_of_erases {k : κ} {v : α} (hv : m.lookup k = some v) (hbody : k ∉ body m k v)
    {mid post : List κ} (h : m.keys = mid ++ k :: post) (hkeep : Keeps body m mid) :
    loop body (m.keys.length + 1) m (begin m) = some (.error .invalidIterator) := by
  have hbegin : begin m = (mid ++ k :: post).head? := by rw [begin, h]
  have hkeys : m.keys = [] ++ (mid ++ k :: post) := h
  have hrounds : 1 + mid.length ≤ m.keys.length + 1 := by
    rw [h, List.length_append]
    omega
  apply loop_le hrounds
  rw [hbegin, loop_keeps hkeys hkeep, List.head?_cons, loop, hv]
  dsimp only
  rw [next_eq_none.mpr hbody]

end MapIter
