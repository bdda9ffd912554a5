import Mathlib.Data.List.Nodup
import Mathlib.Data.List.Range
import Mathlib.Tactic.Common

/-!
# A queue with tokens

A list that is filled at both ends and emptied at its front, and a counting semaphore. A producer
inserts an entry and posts a token for it afterwards; a consumer waits for a token before it
removes an entry. The list and the semaphore are changed in separate steps.
-/

/-- An entry, with its number in the order of insertion and the end where it was put. -/
structure TokenQueue.Entry (α : Type*) where
  num : ℕ
  value : α
  first : Bool

/-- The list, the semaphore's count, all that was inserted, and what each consumer removed. -/
structure TokenQueue (κ α : Type*) where
  list : List (TokenQueue.Entry α)
  count : ℕ
  inserted : List (TokenQueue.Entry α)
  removed : List (κ × TokenQueue.Entry α)

namespace TokenQueue

variable {κ α : Type*} {q q' : TokenQueue κ α} {holding posting : ℕ}

def new : TokenQueue κ α := ⟨[], 0, [], []⟩

def entry (q : TokenQueue κ α) (first : Bool) (a : α) : Entry α := ⟨q.inserted.length, a, first⟩

def insert (q : TokenQueue κ α) (first : Bool) (a : α) : TokenQueue κ α :=
  { q with
    list := if first then q.entry first a :: q.list else q.list ++ [q.entry first a]
    inserted := q.inserted ++ [q.entry first a] }

def post (q : TokenQueue κ α) (n : ℕ) : TokenQueue κ α :=
  { q with count := q.count + n }

def wait (q : TokenQueue κ α) : Option (TokenQueue κ α) :=
  if q.count = 0 then none else some { q with count := q.count - 1 }

/-- A consumer removes the entry at the front, if there is one. -/
def remove (q : TokenQueue κ α) (k : κ) : Option (Entry α × TokenQueue κ α) :=
  match q.list with
  | [] => none
  | e :: l => some (e, { q with list := l, removed := q.removed ++ [(k, e)] })

def handed (q : TokenQueue κ α) : List (Entry α) :=
  q.removed.map Prod.snd

def backs (l : List (Entry α)) : List (Entry α) :=
  l.filter fun e => !e.first

lemma backs_append (l l' : List (Entry α)) : backs (l ++ l') = backs l ++ backs l' :=
  List.filter_append _ _

@[simp] lemma insert_count (first : Bool) (a : α) : (q.insert first a).count = q.count := rfl

lemma mem_insert_list {first : Bool} {a : α} {e : Entry α} :
    e ∈ (q.insert first a).list ↔ e ∈ q.list ∨ e = q.entry first a := by
  cases first with
  | false => simp [insert]
  | true => simp [insert, or_comm]

lemma wait_eq_some : q.wait = some q' ↔ 0 < q.count ∧ q' = { q with count := q.count - 1 } := by
  rw [wait]
  split_ifs with h
  · constructor
    · exact fun h' => absurd h' (by simp)
    · exact fun h' => absurd h h'.1.ne'
  · rw [Option.some.injEq, eq_comm]
    exact ⟨fun h' => ⟨Nat.pos_of_ne_zero h, h'⟩, And.right⟩

lemma remove_eq_none {k : κ} : q.remove k = none ↔ q.list = [] := by
  rw [remove]
  split <;> simp_all

lemma remove_eq_some {k : κ} {e : Entry α} : q.remove k = some (e, q') ↔
    ∃ l, q.list = e :: l ∧ q' = { q with list := l, removed := q.removed ++ [(k, e)] } := by
  rw [remove]
  split
  · rename_i hl
    simp [hl]
  · rename_i e' l hl
    simp only [hl, Option.some.injEq, Prod.mk.injEq, List.cons.injEq]
    constructor
    · rintro ⟨rfl, rfl⟩
      exact ⟨l, ⟨rfl, rfl⟩, rfl⟩
    · rintro ⟨l', ⟨rfl, rfl⟩, rfl⟩
      exact ⟨rfl, rfl⟩

/-! ### What goes out is what came in -/

/-- The entries are numbered, each is in the list or with a consumer, and those put at the back
keep their order. -/
structure Recorded (q : TokenQueue κ α) : Prop where
  nums : q.inserted.map Entry.num = List.range q.inserted.length
  perm : (q.handed ++ q.list).Perm q.inserted
  order : backs (q.handed ++ q.list) = backs q.inserted

lemma recorded_new : (new : TokenQueue κ α).Recorded :=
  ⟨rfl, List.Perm.refl [], rfl⟩

lemma Recorded.insert (h : q.Recorded) (first : Bool) (a : α) : (q.insert first a).Recorded := by
  constructor
  · show (q.inserted ++ [q.entry first a]).map Entry.num =
      List.range (q.inserted ++ [q.entry first a]).length
    rw [List.map_append, h.nums, List.length_append, List.length_singleton, List.range_succ]
    rfl
  · show (q.handed ++ _).Perm (q.inserted ++ [q.entry first a])
    cases first with
    | false =>
      show (q.handed ++ (q.list ++ [q.entry false a])).Perm _
      rw [← List.append_assoc]
      exact h.perm.append_right _
    | true =>
      show (q.handed ++ q.entry true a :: q.list).Perm _
      -- the new entry overtakes those that wait, but is no other one
      refine List.perm_middle.trans ?_
      exact (h.perm.cons _).trans (List.perm_append_singleton _ _).symm
  · show backs (q.handed ++ _) = backs (q.inserted ++ [q.entry first a])
    rw [backs_append q.inserted, ← h.order]
    cases first with
    | false =>
      show backs (q.handed ++ (q.list ++ [q.entry false a])) = _
      rw [← List.append_assoc, backs_append]
    | true =>
      show backs (q.handed ++ ([q.entry true a] ++ q.list)) = _
      have hfront : backs [q.entry true a] = [] := rfl
      rw [backs_append, backs_append, hfront, backs_append, List.nil_append, List.append_nil]

lemma Recorded.post (h : q.Recorded) (n : ℕ) : (q.post n).Recorded :=
  ⟨h.nums, h.perm, h.order⟩

lemma Recorded.wait (h : q.Recorded) (hs : q.wait = some q') : q'.Recorded := by
  obtain ⟨_, rfl⟩ := wait_eq_some.mp hs
  exact ⟨h.nums, h.perm, h.order⟩

lemma Recorded.remove (h : q.Recorded) {k : κ} {e : Entry α} (hs : q.remove k = some (e, q')) :
    q'.Recorded := by
  obtain ⟨l, hl, rfl⟩ := remove_eq_some.mp hs
  -- the entry moves from the front of the list to the end of what was handed out
  have heq : (q.removed ++ [(k, e)]).map Prod.snd ++ l = q.handed ++ q.list := by
    rw [hl, List.map_append, List.append_assoc]
    rfl
  constructor
  · exact h.nums
  · show ((q.removed ++ [(k, e)]).map Prod.snd ++ l).Perm q.inserted
    rw [heq]
    exact h.perm
  · show backs ((q.removed ++ [(k, e)]).map Prod.snd ++ l) = backs q.inserted
    rw [heq]
    exact h.order

lemma Recorded.handed_nodup (h : q.Recorded) : q.handed.Nodup := by
  have hins : q.inserted.Nodup := by
    apply List.Nodup.of_map Entry.num
    rw [h.nums]
    exact List.nodup_range
  exact (List.nodup_append.mp (h.perm.nodup_iff.mpr hins)).1

lemma Recorded.mem_inserted (h : q.Recorded) {e : Entry α} (he : e ∈ q.handed) :
    e ∈ q.inserted :=
  h.perm.mem_iff.mp (List.mem_append_left _ he)

lemma Recorded.backs_prefix (h : q.Recorded) : backs q.handed <+: backs q.inserted := by
  rw [← h.order, backs_append]
  exact List.prefix_append _ _

/-! ### One token for each entry -/

/-- The entries of the list are as many as the tokens: those in the semaphore, those that consumers
hold and those that producers have yet to post. -/
def Balanced (q : TokenQueue κ α) (holding posting : ℕ) : Prop :=
  q.count + holding + posting = q.list.length

lemma balanced_new : (new : TokenQueue κ α).Balanced 0 0 := rfl

lemma insert_list_length (first : Bool) (a : α) :
    (q.insert first a).list.length = q.list.length + 1 := by
  cases first with
  | false => exact List.length_append
  | true => rfl

lemma Balanced.insert (h : q.Balanced holding posting) (first : Bool) (a : α) :
    (q.insert first a).Balanced holding (posting + 1) := by
  rw [Balanced] at h ⊢
  rw [insert_list_length, insert_count]
  omega

lemma Balanced.post (h : q.Balanced holding (posting + 1)) :
    (q.post 1).Balanced holding posting := by
  rw [Balanced] at h ⊢
  show q.count + 1 + holding + posting = q.list.length
  omega

lemma Balanced.wait (h : q.Balanced holding posting) (hs : q.wait = some q') :
    q'.Balanced (holding + 1) posting := by
  obtain ⟨hpos, rfl⟩ := wait_eq_some.mp hs
  rw [Balanced] at h ⊢
  show q.count - 1 + (holding + 1) + posting = q.list.length
  omega

lemma Balanced.remove (h : q.Balanced (holding + 1) posting) {k : κ} {e : Entry α}
    (hs : q.remove k = some (e, q')) : q'.Balanced holding posting := by
  obtain ⟨l, hl, rfl⟩ := remove_eq_some.mp hs
  rw [Balanced, hl, List.length_cons] at h
  show q.count + holding + posting = l.length
  omega

lemma Balanced.list_ne_nil (h : q.Balanced (holding + 1) posting) : q.list ≠ [] := by
  intro hl
  rw [Balanced, hl, List.length_nil] at h
  omega

/-- Without tokens anywhere, the list is empty. -/
lemma Balanced.list_eq_nil (h : q.Balanced 0 0) (hcount : q.count = 0) : q.list = [] := by
  rw [Balanced, hcount] at h
  exact List.length_eq_zero_iff.mp h.symm

end TokenQueue
