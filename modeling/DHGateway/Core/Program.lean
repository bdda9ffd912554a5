import DHGateway.Core.Run

/-!
# Programs on a pool

A program is a tree of sections, each of which changes a shared state at once. On a pool any number
of programs are in progress, and the next section of any of them can come next.
-/

/-- A program is done, or it makes a section, and goes on by what it has seen there. Sections have
labels. -/
inductive Program (σ ℓ : Type*) where
  | done
  | act (l : ℓ) (f : σ → σ) (next : σ → Program σ ℓ)

namespace Program

variable {σ ℓ : Type*}

/-- The state when the program runs alone. -/
def finish : Program σ ℓ → σ → σ
  | .done, s => s
  | .act _ f next, s => (next s).finish (f s)

@[simp] lemma finish_act (l : ℓ) (f : σ → σ) (next : σ → Program σ ℓ) (s : σ) :
    (Program.act l f next).finish s = (next s).finish (f s) := rfl

/-! ### What a program relies on -/

/-- In every state that the others can make of this one, each section of the program keeps the
invariant exactly if the condition holds; and then others can rely on what it does. -/
def Safe (rely : σ → σ → Prop) (cond : ℓ → σ → Prop) (I : σ → Prop) : Program σ ℓ → σ → Prop
  | .done, _ => True
  | .act l f next, s =>
    ∀ t, rely s t → I t → (cond l t ↔ I (f t)) ∧
      (cond l t → rely t (f t) ∧ (next t).Safe rely cond I (f t))

variable {rely : σ → σ → Prop} {cond : ℓ → σ → Prop} {I : σ → Prop}

lemma Safe.of_rely (htrans : ∀ s t u, rely s t → rely t u → rely s u) {p : Program σ ℓ} {s t : σ}
    (h : p.Safe rely cond I s) (hst : rely s t) : p.Safe rely cond I t := by
  cases p with
  | done => trivial
  | act l f next => exact fun u hu hI => h u (htrans s t u hst hu) hI

/-! ### Pools -/

/-- The shared state and the programs in progress; those that are done stay. -/
structure Pool (σ ℓ : Type*) where
  shared : σ
  running : List (Program σ ℓ)

namespace Pool

/-- A task comes in, or a program makes its next section. -/
inductive Action (τ : Type*) where
  | start (t : τ)
  | advance (i : ℕ)

variable {τ : Type*}

def step (program : τ → Program σ ℓ) (s : Pool σ ℓ) : Action τ → Option (Pool σ ℓ)
  | .start t => some { s with running := s.running ++ [program t] }
  | .advance i =>
    match s.running[i]? with
    | some (.act _ f next) => some ⟨f s.shared, s.running.set i (next s.shared)⟩
    | _ => none

def Keeps (cond : ℓ → σ → Prop) (s : Pool σ ℓ) : Action τ → Prop
  | .start _ => True
  | .advance i => ∀ l f next, s.running[i]? = some (.act l f next) → cond l s.shared

/-- The shared state keeps the invariant, and every program in progress is safe. -/
structure Inv (rely : σ → σ → Prop) (cond : ℓ → σ → Prop) (I : σ → Prop) (s : Pool σ ℓ) :
    Prop where
  shared : I s.shared
  safe : ∀ p ∈ s.running, p.Safe rely cond I s.shared

variable {program : τ → Program σ ℓ} {s s' : Pool σ ℓ}

lemma step_advance {i : ℕ} (h : s.step program (.advance i) = some s') :
    ∃ l f next, s.running[i]? = some (.act l f next) ∧
      s' = ⟨f s.shared, s.running.set i (next s.shared)⟩ := by
  simp only [step] at h
  cases hp : s.running[i]? with
  | none =>
    rw [hp] at h
    exact nomatch h
  | some p =>
    rw [hp] at h
    cases p with
    | done => exact nomatch h
    | act l f next => exact ⟨l, f, next, rfl, (Option.some.inj h).symm⟩

lemma keeps_advance_iff {i : ℕ} {l : ℓ} {f : σ → σ} {next : σ → Program σ ℓ}
    (h : s.running[i]? = some (.act l f next)) :
    s.Keeps cond (.advance i : Action τ) ↔ cond l s.shared := by
  constructor
  · exact fun hk => hk l f next h
  · intro hc l' f' next' h'
    rw [h] at h'
    cases h'
    exact hc

lemma Inv.step (hrefl : ∀ s, rely s s) (htrans : ∀ s t u, rely s t → rely t u → rely s u)
    (hsafe : ∀ t s, I s → (program t).Safe rely cond I s) {a : Action τ}
    (h : s.Inv rely cond I) (hs : s.step program a = some s') :
    (s.Keeps cond a → s'.Inv rely cond I) ∧ (¬ s.Keeps cond a → ¬ I s'.shared) := by
  cases a with
  | start t =>
    rw [← Option.some.inj hs]
    refine ⟨fun _ => ⟨h.shared, fun p hp => ?_⟩, fun hno => absurd trivial hno⟩
    rcases List.mem_append.mp hp with hp | hp
    · exact h.safe p hp
    · rw [List.mem_singleton.mp hp]
      exact hsafe t s.shared h.shared
  | advance i =>
    obtain ⟨l, f, next, hp, rfl⟩ := step_advance hs
    obtain ⟨hiff, hgo⟩ :=
      h.safe _ (List.mem_of_getElem? hp) s.shared (hrefl s.shared) h.shared
    rw [keeps_advance_iff hp]
    refine ⟨fun hc => ?_, fun hc => fun hI => hc (hiff.mpr hI)⟩
    obtain ⟨hrely, hnext⟩ := hgo hc
    refine ⟨hiff.mp hc, fun p hmem => ?_⟩
    rcases List.mem_or_eq_of_mem_set hmem with hmem | rfl
    · -- the other programs rely on what this one does
      exact (h.safe p hmem).of_rely htrans hrely
    · exact hnext

/-- If the program of every task is safe, then in a run of the pool the invariant holds at all
times exactly if every section meets the condition. -/
theorem always_iff (hrefl : ∀ s, rely s s) (htrans : ∀ s t u, rely s t → rely t u → rely s u)
    (hsafe : ∀ t s, I s → (program t).Safe rely cond I s) {s₀ : σ} (h₀ : I s₀)
    {as : List (Action τ)} {t : Pool σ ℓ} (hrun : Run.run (step program) ⟨s₀, []⟩ as = some t) :
    Run.Always (step program) (fun s => I s.shared) ⟨s₀, []⟩ as ↔
      Run.Meets (step program) (Keeps cond) ⟨s₀, []⟩ as := by
  refine Run.always_iff_meets (I := Inv rely cond I) (fun _ h => h.shared) ?_ ?_
    ⟨h₀, fun p hp => absurd hp List.not_mem_nil⟩ hrun
  · exact fun _ _ _ h hc hs => (h.step hrefl htrans hsafe hs).1 hc
  · exact fun _ _ _ h hc hs => (h.step hrefl htrans hsafe hs).2 hc

/-- A program that no other one interrupts comes to what it does alone. -/
theorem run_alone (program : τ → Program σ ℓ) (p : Program σ ℓ) (s : σ) :
    ∃ n, Run.run (step program) ⟨s, [p]⟩ (List.replicate n (.advance 0)) =
      some ⟨p.finish s, [.done]⟩ := by
  induction p generalizing s with
  | done => exact ⟨0, rfl⟩
  | act l f next ih =>
    obtain ⟨n, hrun⟩ := ih s (f s)
    exact ⟨n + 1, hrun⟩

end Pool

end Program
