import Mathlib.Data.List.Infix
import Mathlib.Tactic.Common

/-!
# Runs of a transition system

A partial step function and the runs it makes of lists of actions. An invariant is shown once
for a step; that it holds in every state a run visits is shown here.
-/

namespace Run

variable {σ α : Type*}

/-- The run of a list of actions; `none` when some action is not possible. -/
def run (step : σ → α → Option σ) : σ → List α → Option σ
  | s, [] => some s
  | s, a :: as =>
    match step s a with
    | none => none
    | some s' => run step s' as

/-- Every step of the run meets a condition on the state before it and its action. -/
def Meets (step : σ → α → Option σ) (cond : σ → α → Prop) : σ → List α → Prop
  | _, [] => True
  | s, a :: as => cond s a ∧ ∀ s', step s a = some s' → Meets step cond s' as

/-- A property holds in every state that the run visits. -/
def Always (step : σ → α → Option σ) (P : σ → Prop) (s : σ) (as : List α) : Prop :=
  ∀ bs, bs <+: as → ∀ t, run step s bs = some t → P t

variable {step : σ → α → Option σ} {cond : σ → α → Prop} {I P : σ → Prop}

@[simp] lemma run_nil (s : σ) : run step s [] = some s := rfl

lemma run_cons {s t : σ} {a : α} {as : List α} :
    run step s (a :: as) = some t ↔ ∃ s', step s a = some s' ∧ run step s' as = some t := by
  rw [run]
  cases h : step s a with
  | none => simp
  | some s' => simp

example {s s' t : σ} {a b : α} (ha : step s a = some s') (hb : step s' b = some t) :
    run step s [a, b] = some t :=
  run_cons.mpr ⟨s', ha, run_cons.mpr ⟨t, hb, run_nil t⟩⟩

lemma meets_cons {s s' : σ} {a : α} {as : List α} (hc : cond s a) (hs : step s a = some s')
    (h : Meets step cond s' as) : Meets step cond s (a :: as) := by
  refine ⟨hc, fun s'' hs'' => ?_⟩
  rw [hs] at hs''
  exact Option.some.inj hs'' ▸ h

/-- Whether a run meets a condition is decided along the run. -/
instance [∀ s a, Decidable (cond s a)] (s : σ) (as : List α) :
    Decidable (Meets step cond s as) := by
  induction as generalizing s with
  | nil => exact isTrue trivial
  | cons a as ih =>
    exact inferInstanceAs (Decidable (cond s a ∧ ∀ s' ∈ step s a, Meets step cond s' as))

lemma meets_and {cond' : σ → α → Prop} {s : σ} {as : List α} :
    Meets step (fun s a => cond s a ∧ cond' s a) s as ↔
      Meets step cond s as ∧ Meets step cond' s as := by
  induction as generalizing s with
  | nil => exact ⟨fun _ => ⟨trivial, trivial⟩, fun _ => trivial⟩
  | cons a as ih =>
    constructor
    · rintro ⟨⟨hc, hc'⟩, h⟩
      exact ⟨⟨hc, fun s' hs => (ih.mp (h s' hs)).1⟩, ⟨hc', fun s' hs => (ih.mp (h s' hs)).2⟩⟩
    · rintro ⟨⟨hc, h⟩, hc', h'⟩
      exact ⟨⟨hc, hc'⟩, fun s' hs => ih.mpr ⟨h s' hs, h' s' hs⟩⟩

lemma meets_of_forall {as : List α} (h : ∀ a ∈ as, ∀ s, cond s a) (s : σ) :
    Meets step cond s as := by
  induction as generalizing s with
  | nil => trivial
  | cons a as ih =>
    constructor
    · exact h a List.mem_cons_self s
    · intro s' _
      apply ih
      intro b hb
      exact h b (List.mem_cons_of_mem a hb)

lemma meets_and_of_forall {p : α → Prop} {s : σ} {as : List α} (h : Meets step cond s as)
    (hp : ∀ a ∈ as, p a) : Meets step (fun s a => cond s a ∧ p a) s as :=
  meets_and.mpr ⟨h, meets_of_forall (fun a ha _ => hp a ha) s⟩

lemma meets_iff_forall {p : α → Prop} {s t : σ} {as : List α} (h : run step s as = some t) :
    Meets step (fun _ a => p a) s as ↔ ∀ a ∈ as, p a := by
  constructor
  · intro hmeets
    induction as generalizing s with
    | nil => exact fun a ha => absurd ha List.not_mem_nil
    | cons a as ih =>
      obtain ⟨s', hs, hrun⟩ := run_cons.mp h
      exact List.forall_mem_cons.mpr ⟨hmeets.1, ih hrun (hmeets.2 s' hs)⟩
  · exact fun hall => meets_of_forall (fun a ha _ => hall a ha) s

lemma run_append {s t u : σ} {as bs : List α} (h : run step s as = some t)
    (h' : run step t bs = some u) : run step s (as ++ bs) = some u := by
  induction as generalizing s with
  | nil => exact Option.some.inj h ▸ h'
  | cons a as ih =>
    obtain ⟨s', hs, hrun⟩ := run_cons.mp h
    exact run_cons.mpr ⟨s', hs, ih hrun⟩

/-- Forward simulation: where steps of another system match each step, one of its runs matches each
run. -/
theorem exists_run_of_simulation {τ β : Type*} {step' : τ → β → Option τ} {R : σ → τ → Prop}
    (hstep : ∀ s t a s', R s t → step s a = some s' →
      ∃ bs t', run step' t bs = some t' ∧ R s' t')
    {s s' : σ} {t : τ} {as : List α} (h0 : R s t) (h : run step s as = some s') :
    ∃ bs t', run step' t bs = some t' ∧ R s' t' := by
  induction as generalizing s t with
  | nil => exact ⟨[], t, rfl, Option.some.inj h ▸ h0⟩
  | cons a as ih =>
    obtain ⟨s₁, hs, hrun⟩ := run_cons.mp h
    obtain ⟨bs, t₁, hbs, hR⟩ := hstep s t a s₁ h0 hs
    obtain ⟨bs', t', hbs', hR'⟩ := ih hR hrun
    exact ⟨bs ++ bs', t', run_append hbs hbs', hR'⟩

/-- Forward simulation along a function: each step is one of the other system, or none. -/
theorem exists_run_of_abstraction {τ β : Type*} {step' : τ → β → Option τ} {f : σ → τ}
    (hstep : ∀ s a s', I s → step s a = some s' →
      I s' ∧ (f s' = f s ∨ ∃ b, step' (f s) b = some (f s')))
    {s s' : σ} {as : List α} (h0 : I s) (h : run step s as = some s') :
    ∃ bs, run step' (f s) bs = some (f s') := by
  have hsim : ∀ s t a s', I s ∧ t = f s → step s a = some s' →
      ∃ bs t', run step' t bs = some t' ∧ I s' ∧ t' = f s' := by
    rintro s t a s' ⟨hI, rfl⟩ hs
    obtain ⟨hI', heq | ⟨b, hb⟩⟩ := hstep s a s' hI hs
    · exact ⟨[], f s', heq ▸ rfl, hI', rfl⟩
    · exact ⟨[b], f s', run_cons.mpr ⟨f s', hb, rfl⟩, hI', rfl⟩
  obtain ⟨bs, t, hbs, _, rfl⟩ := exists_run_of_simulation hsim ⟨h0, rfl⟩ h
  exact ⟨bs, hbs⟩

/-- Where every action is possible in every state, every list of actions has its run. -/
lemma exists_run (h : ∀ s a, ∃ s', step s a = some s') (s : σ) (as : List α) :
    ∃ t, run step s as = some t := by
  induction as generalizing s with
  | nil => exact ⟨s, rfl⟩
  | cons a as ih =>
    obtain ⟨s', hs⟩ := h s a
    obtain ⟨t, ht⟩ := ih s'
    exact ⟨t, run_cons.mpr ⟨s', hs, ht⟩⟩

/-- What a step under the condition preserves holds after every run under the condition. -/
theorem run_invariant
    (hstep : ∀ s a s', I s → cond s a → step s a = some s' → I s') {s t : σ} {as : List α}
    (h0 : I s) (hcond : Meets step cond s as) (h : run step s as = some t) : I t := by
  induction as generalizing s with
  | nil =>
    rw [run_nil] at h
    exact Option.some.inj h ▸ h0
  | cons a as ih =>
    obtain ⟨s', ha, hrun⟩ := run_cons.mp h
    exact ih (hstep s a s' h0 hcond.1 ha) (hcond.2 s' ha) hrun

/-- What every step preserves holds after every run. -/
theorem reachable_invariant (hstep : ∀ s a s', I s → step s a = some s' → I s') {s t : σ}
    {as : List α} (h0 : I s) (h : run step s as = some t) : I t := by
  have hall : Meets step (fun _ _ => True) s as := meets_of_forall (fun _ _ _ => trivial) s
  exact run_invariant (fun s a s' hs _ ha => hstep s a s' hs ha) h0 hall h

lemma meets_of_invariant {cond' : σ → α → Prop}
    (hstep : ∀ s a s', I s → cond s a → step s a = some s' → I s')
    (hcond : ∀ s a, I s → cond s a → cond' s a) {s : σ} {as : List α} (h0 : I s)
    (h : Meets step cond s as) : Meets step cond' s as := by
  induction as generalizing s with
  | nil => trivial
  | cons a as ih =>
    exact ⟨hcond s a h0 h.1, fun s' hs => ih (hstep s a s' h0 h.1 hs) (h.2 s' hs)⟩

/-- Names from a supply: where a step brings no name into use but the one of its action, a run whose
names are distinct finds each of them unused. -/
theorem meets_fresh {ν : Type*} {used : σ → List ν} {name : α → Option ν}
    (hstep : ∀ s a s', I s → (∀ k, name a = some k → k ∉ used s) → step s a = some s' →
      I s' ∧ ∀ k ∈ used s', k ∈ used s ∨ name a = some k)
    {s : σ} {as : List α} (h0 : I s) (hnodup : (as.filterMap name).Nodup)
    (hused : ∀ k ∈ used s, k ∉ as.filterMap name) :
    Meets step (fun s a => ∀ k, name a = some k → k ∉ used s) s as := by
  induction as generalizing s with
  | nil => trivial
  | cons a as ih =>
    have hfresh : ∀ k, name a = some k → k ∉ used s := by
      intro k hk hmem
      exact hused k hmem (List.mem_filterMap.mpr ⟨a, List.mem_cons_self, hk⟩)
    refine ⟨hfresh, fun s' hs => ?_⟩
    obtain ⟨hI, hnew⟩ := hstep s a s' h0 hfresh hs
    rw [List.filterMap_cons] at hnodup
    cases hname : name a with
    -- the action brings no name
    | none =>
      rw [hname] at hnodup
      refine ih hI hnodup fun k hk hmem => ?_
      obtain hk | hk := hnew k hk
      · exact hused k hk (by simpa [hname] using hmem)
      · rw [hname] at hk
        exact nomatch hk
    -- its name is used from now on, and does not come again
    | some k₀ =>
      rw [hname, List.nodup_cons] at hnodup
      refine ih hI hnodup.2 fun k hk hmem => ?_
      obtain hk | hk := hnew k hk
      · refine hused k hk ?_
        rw [List.filterMap_cons, hname]
        exact List.mem_cons_of_mem k₀ hmem
      · obtain rfl := Option.some.inj (hname.symm.trans hk)
        exact hnodup.1 hmem

lemma mem_used_of_run {ν : Type*} {used : σ → List ν} {name : α → Option ν}
    (hstep : ∀ s a s', I s → (∀ k, name a = some k → k ∉ used s) → step s a = some s' →
      I s' ∧ ∀ k ∈ used s', k ∈ used s ∨ name a = some k)
    {s t : σ} {as : List α} (h0 : I s)
    (hfresh : Meets step (fun s a => ∀ k, name a = some k → k ∉ used s) s as)
    (h : run step s as = some t) {k : ν} (hk : k ∈ used t) :
    k ∈ used s ∨ k ∈ as.filterMap name := by
  induction as generalizing s with
  | nil =>
    rw [run_nil] at h
    exact Or.inl (Option.some.inj h ▸ hk)
  | cons a as ih =>
    obtain ⟨s', hs, hrun⟩ := run_cons.mp h
    obtain ⟨hI, hnew⟩ := hstep s a s' h0 hfresh.1 hs
    obtain hk | hk := ih hI (hfresh.2 s' hs) hrun
    · obtain hk | hk := hnew k hk
      · exact Or.inl hk
      · exact Or.inr (List.mem_filterMap.mpr ⟨a, List.mem_cons_self, hk⟩)
    · obtain ⟨b, hb, hk⟩ := List.mem_filterMap.mp hk
      exact Or.inr (List.mem_filterMap.mpr ⟨b, List.mem_cons_of_mem a hb, hk⟩)

/-- If in each state that the invariant allows, short of the goal, some step makes the state smaller
and keeps the invariant, then a run reaches the goal. -/
theorem exists_run_of_decreasing {p : α → Prop} {m : σ → ℕ}
    (hstep : ∀ s, I s → ¬ P s → ∃ a s', p a ∧ step s a = some s' ∧ I s' ∧ m s' < m s) {s : σ}
    (h0 : I s) : ∃ as t, (∀ a ∈ as, p a) ∧ run step s as = some t ∧ P t := by
  induction hm : m s using Nat.strong_induction_on generalizing s with
  | _ k ih =>
    by_cases hP : P s
    · exact ⟨[], s, fun a ha => absurd ha List.not_mem_nil, rfl, hP⟩
    · obtain ⟨a, s', ha, hs, hI, hlt⟩ := hstep s h0 hP
      obtain ⟨as, t, has, hrun, ht⟩ := ih (m s') (hm ▸ hlt) hI rfl
      exact ⟨a :: as, t, List.forall_mem_cons.mpr ⟨ha, has⟩, run_cons.mpr ⟨s', hs, hrun⟩, ht⟩

/-- Where every step under the condition makes the state smaller, a run under it is no longer than
the state is large. -/
lemma length_le_of_decreasing {m : σ → ℕ}
    (hstep : ∀ s a s', I s → cond s a → step s a = some s' → I s' ∧ m s' < m s) {s t : σ}
    {as : List α} (h0 : I s) (hcond : Meets step cond s as) (h : run step s as = some t) :
    as.length + m t ≤ m s := by
  induction as generalizing s with
  | nil =>
    rw [run_nil] at h
    exact Option.some.inj h ▸ (Nat.zero_add (m s)).le
  | cons a as ih =>
    obtain ⟨s', ha, hrun⟩ := run_cons.mp h
    obtain ⟨hI, hlt⟩ := hstep s a s' h0 hcond.1 ha
    have hle := ih hI (hcond.2 s' ha) hrun
    rw [List.length_cons]
    omega

lemma always_nil {s : σ} : Always step P s [] ↔ P s := by
  constructor
  · exact fun h => h [] List.prefix_rfl s rfl
  · intro h bs hbs t ht
    rw [List.prefix_nil.mp hbs, run_nil] at ht
    exact Option.some.inj ht ▸ h

lemma always_cons {s : σ} {a : α} {as : List α} :
    Always step P s (a :: as) ↔ P s ∧ ∀ s', step s a = some s' → Always step P s' as := by
  constructor
  · intro h
    refine ⟨h [] List.nil_prefix s rfl, fun s' ha bs hbs t ht => ?_⟩
    exact h (a :: bs) ((List.prefix_cons_inj a).mpr hbs) t (run_cons.mpr ⟨s', ha, ht⟩)
  · rintro ⟨hP, h⟩ bs hbs t ht
    cases bs with
    | nil => exact Option.some.inj ht ▸ hP
    | cons b bs =>
      obtain ⟨rfl, hpre⟩ := List.cons_prefix_cons.mp hbs
      obtain ⟨s', ha, hrun⟩ := run_cons.mp ht
      exact h s' ha bs hpre t hrun

/-- An invariant that steps under a condition keep holds in all states of a run under it. -/
theorem always_of_meets (hP : ∀ s, I s → P s)
    (hstep : ∀ s a s', I s → cond s a → step s a = some s' → I s') {s : σ} {as : List α}
    (h0 : I s) (h : Meets step cond s as) : Always step P s as := by
  induction as generalizing s with
  | nil => exact always_nil.mpr (hP s h0)
  | cons a as ih =>
    refine always_cons.mpr ⟨hP s h0, fun s' hs => ?_⟩
    exact ih (hstep s a s' h0 h.1 hs) (h.2 s' hs)

/-- If steps that meet the condition keep the invariant, and a possible step that does not meet
it leads out of `P`, then `P` holds in all states of a run exactly if all its steps meet the
condition. -/
theorem always_iff_meets (hP : ∀ s, I s → P s)
    (hstep : ∀ s a s', I s → cond s a → step s a = some s' → I s')
    (hbad : ∀ s a s', I s → ¬ cond s a → step s a = some s' → ¬ P s')
    {s t : σ} {as : List α} (h0 : I s) (h : run step s as = some t) :
    Always step P s as ↔ Meets step cond s as := by
  induction as generalizing s with
  | nil => exact ⟨fun _ => trivial, fun _ => always_nil.mpr (hP s h0)⟩
  | cons a as ih =>
    obtain ⟨s', ha, hrun⟩ := run_cons.mp h
    -- there is one state after each action
    have huniq : ∀ {Q : σ → Prop}, (∀ s'', step s a = some s'' → Q s'') ↔ Q s' := by
      intro Q
      constructor
      · exact fun hQ => hQ s' ha
      · intro hQ s'' hs''
        rw [ha] at hs''
        exact Option.some.inj hs'' ▸ hQ
    rw [always_cons, Meets, huniq, huniq]
    -- the first step that does not meet the condition leads out of `P`
    by_cases hc : cond s a
    · rw [ih (hstep s a s' h0 hc ha) hrun]
      exact ⟨fun h => ⟨hc, h.2⟩, fun h => ⟨hP s h0, h.2⟩⟩
    · constructor
      · rintro ⟨_, hall⟩
        exact absurd (hall [] List.nil_prefix s' rfl) (hbad s a s' h0 hc ha)
      · exact fun h => absurd h.1 hc

end Run
