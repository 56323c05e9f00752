import Mathlib.Data.List.Basic

/-!
Contract: partial deterministic machines with outputs, and their guarded runs.

A machine is a step function `σ → ι → Option (σ × List ω)`: one input, when it
is enabled, leads to one next state and emits a list of outputs. All choices of
the environment are part of the input, so a run is determined by its inputs.

Owns: the guarded run relation `Run`, its induction and composition rules, the
executable interpreter `exec` with its agreement with `Run`, the invariant rule
over output history and state, the rules of termination and ranking, the simulation
rule, and the machine that records its own history.

Does not own: any particular machine.
-/

namespace Machine

universe u v w

variable {σ : Type u} {ι : Type v} {ω : Type w}

/-- `Run step guard start inputs outputs final`: the machine goes from `start`
to `final` on `inputs`, emitting `outputs`, and every input meets `guard` in the
state in which it is taken. -/
inductive Run
    (step : σ → ι → Option (σ × List ω))
    (guard : σ → ι → Prop)
    (start : σ) :
    List ι → List ω → σ → Prop
  | nil : Run step guard start [] [] start
  | snoc {inputs : List ι} {outputs emitted : List ω} {middle final : σ} {input : ι}
      (before : Run step guard start inputs outputs middle)
      (allowed : guard middle input)
      (stepped : step middle input = some (final, emitted)) :
      Run step guard start (inputs ++ [input]) (outputs ++ emitted) final

/-- The guard that allows every input. -/
def free (_ : σ) (_ : ι) : Prop := True

instance (state : σ) (input : ι) : Decidable (free state input) :=
  .isTrue trivial

section Rules

variable
  {step : σ → ι → Option (σ × List ω)}
  {guard weaker : σ → ι → Prop}
  {start middle final : σ}
  {inputs later : List ι}
  {outputs emitted : List ω}

/-- One step is a run. -/
theorem Run.single
    {input : ι}
    (allowed : guard start input)
    (stepped : step start input = some (final, emitted)) :
    Run step guard start [input] emitted final := by
  simpa using Run.snoc .nil allowed stepped

/-- Runs compose. -/
theorem Run.trans
    (first : Run step guard start inputs outputs middle)
    (second : Run step guard middle later emitted final) :
    Run step guard start (inputs ++ later) (outputs ++ emitted) final := by
  induction second with
  | nil => simpa using first
  | snoc _ allowed stepped inductionHypothesis =>
      rw [← List.append_assoc, ← List.append_assoc]
      exact .snoc inductionHypothesis allowed stepped

/-- A run under a stronger guard is a run under a weaker one. -/
theorem Run.mono
    (weakens : ∀ state input, guard state input → weaker state input)
    (run : Run step guard start inputs outputs final) :
    Run step weaker start inputs outputs final := by
  induction run with
  | nil => exact .nil
  | snoc _ allowed stepped inductionHypothesis =>
      exact .snoc inductionHypothesis (weakens _ _ allowed) stepped

/-- A guard that all inputs of a run meet may be added to its guard. -/
theorem Run.strengthen
    (extra : ι → Prop)
    (meets : ∀ input ∈ inputs, extra input)
    (run : Run step guard start inputs outputs final) :
    Run step (fun state input => guard state input ∧ extra input) start inputs outputs
      final := by
  induction run with
  | nil => exact .nil
  | snoc _ allowed stepped inductionHypothesis =>
      refine (inductionHypothesis fun input member => ?_).snoc ⟨allowed, ?_⟩ stepped
      · exact meets input (List.mem_append_left _ member)
      · exact meets _ (List.mem_append_right _ (List.mem_singleton_self _))

/-- **The invariant rule.** A relation between output history and state that
holds at the start and is kept by every allowed step holds after every run. -/
theorem Run.invariant
    (property : List ω → σ → Prop)
    (initial : property [] start)
    (preserved : ∀ {history state input next fresh},
      property history state → guard state input →
      step state input = some (next, fresh) →
      property (history ++ fresh) next)
    (run : Run step guard start inputs outputs final) :
    property outputs final := by
  induction run with
  | nil => exact initial
  | snoc _ allowed stepped inductionHypothesis =>
      exact preserved inductionHypothesis allowed stepped

/-- The invariant rule for properties of the state alone. -/
theorem Run.state_invariant
    (property : σ → Prop)
    (initial : property start)
    (preserved : ∀ {state input next fresh},
      property state → guard state input →
      step state input = some (next, fresh) → property next)
    (run : Run step guard start inputs outputs final) :
    property final :=
  run.invariant (fun _ => property) initial
    (fun holds allowed stepped => preserved holds allowed stepped)

/-- The steps of a run from a state of an invariant are steps from states of it. -/
theorem Run.within
    (property : σ → Prop)
    (initial : property start)
    (preserved : ∀ {state input next fresh},
      property state → guard state input →
      step state input = some (next, fresh) → property next)
    (run : Run step guard start inputs outputs final) :
    property final ∧
      Run step (fun state input => property state ∧ guard state input) start inputs outputs
        final := by
  induction run with
  | nil => exact ⟨initial, .nil⟩
  | snoc _ allowed stepped inductionHypothesis =>
      obtain ⟨holds, earlier⟩ := inductionHypothesis
      exact ⟨preserved holds allowed stepped, earlier.snoc ⟨holds, allowed⟩ stepped⟩

/-- **The ranking rule.** When every allowed step lowers a measure, a run is no longer
than the measure of its start. -/
theorem Run.length_le
    (measure : σ → Nat)
    (lowers : ∀ {state input next fresh}, guard state input →
      step state input = some (next, fresh) → measure next < measure state)
    (run : Run step guard start inputs outputs final) :
    inputs.length + measure final ≤ measure start := by
  induction run with
  | nil => simp
  | snoc _ allowed stepped inductionHypothesis =>
      have lower := lowers allowed stepped
      rw [List.length_append, List.length_singleton]
      omega

/-- **The accounting rule.** When every charged step lowers a measure, only credited
steps raise it, and these by at most the price, then the measure of the start and the
credits pay for all charged steps of a run. -/
theorem Run.charged_le
    (charged credited : ι → Bool)
    (price : Nat)
    (measure : σ → Nat)
    (pays : ∀ {state input next fresh}, guard state input →
      step state input = some (next, fresh) →
      (if charged input then 1 else 0) + measure next ≤
        measure state + if credited input then price else 0)
    (run : Run step guard start inputs outputs final) :
    inputs.countP charged + measure final ≤ measure start + price * inputs.countP credited := by
  induction run with
  | nil => simp
  | @snoc inputs outputs emitted middle final input _ allowed stepped inductionHypothesis =>
      have paid := pays allowed stepped
      rw [List.countP_append, List.countP_append, List.countP_singleton, List.countP_singleton,
        Nat.mul_add]
      by_cases isCredited : credited input = true
      · rw [if_pos isCredited] at paid ⊢
        omega
      · rw [if_neg isCredited] at paid ⊢
        omega

/-- A machine that is ranked can be run until no allowed input is enabled. -/
theorem Run.exists_stuck
    (measure : σ → Nat)
    (lowers : ∀ {state input next fresh}, guard state input →
      step state input = some (next, fresh) → measure next < measure state)
    (start : σ) :
    ∃ inputs outputs final, Run step guard start inputs outputs final ∧
      ∀ input, guard final input → step final input = none := by
  generalize size : measure start = bound
  induction bound using Nat.strongRecOn generalizing start with
  | ind bound inductionHypothesis =>
      by_cases stuck : ∀ input, guard start input → step start input = none
      · exact ⟨[], [], start, .nil, stuck⟩
      · push Not at stuck
        obtain ⟨input, allowed, enabled⟩ := stuck
        obtain ⟨⟨next, emitted⟩, stepped⟩ := Option.ne_none_iff_exists'.mp enabled
        have lower := lowers allowed stepped
        rw [size] at lower
        obtain ⟨inputs, outputs, final, run, isStuck⟩ :=
          inductionHypothesis _ lower next rfl
        exact ⟨[input] ++ inputs, emitted ++ outputs, final,
          (Run.single allowed stepped).trans run, isStuck⟩

/-- **The exactness rule.** When, in every state that the machine can reach, a
guard allows an input exactly if all that the step emits is good, then all
outputs of a run are good exactly if the run meets the guard throughout. -/
theorem Run.good_iff_guarded
    (property : σ → Prop)
    (good : ω → Prop)
    (initial : property start)
    (preserved : ∀ {state input next fresh},
      property state → step state input = some (next, fresh) → property next)
    (exact : ∀ {state input next fresh},
      property state → step state input = some (next, fresh) →
      (guard state input ↔ ∀ output ∈ fresh, good output))
    (run : Run step free start inputs outputs final) :
    (∀ output ∈ outputs, good output) ↔ Run step guard start inputs outputs final := by
  induction run with
  | nil => simp [Run.nil]
  | snoc before _ stepped inductionHypothesis =>
      have reached := before.state_invariant property initial
        fun holds _ stepped => preserved holds stepped
      constructor
      · intro allGood
        refine .snoc (inductionHypothesis.mp ?_) ((exact reached stepped).mpr ?_) stepped
        · intro output old
          exact allGood output (List.mem_append_left _ old)
        · intro output new
          exact allGood output (List.mem_append_right _ new)
      · intro guarded
        exact guarded.invariant (fun history state => property state ∧
            ∀ output ∈ history, good output) ⟨initial, by simp⟩
          (by
            intro history state input next fresh holds allowed stepped
            obtain ⟨reached, earlier⟩ := holds
            refine ⟨preserved reached stepped, ?_⟩
            intro output member
            rcases List.mem_append.mp member with old | new
            · exact earlier output old
            · exact (exact reached stepped).mp allowed output new) |>.2

end Rules

/-! ## Simulation -/

section Simulation

variable
  {σ' : Type*} {ι' : Type*} {ω' : Type*}
  {step : σ → ι → Option (σ × List ω)} {guard : σ → ι → Prop}
  {step' : σ' → ι' → Option (σ' × List ω')} {guard' : σ' → ι' → Prop}
  {start final : σ} {inputs : List ι} {outputs : List ω}

/-- **The simulation rule.** When every step of one machine, in a state that is related to
one of another, is a run of the other with the abstract outputs to a related state, then
so is every run. -/
theorem Run.simulated {start' : σ'}
    (related : σ → σ' → Prop)
    (view : ω → List ω')
    (initial : related start start')
    (matched : ∀ {state input next fresh} {state' : σ'},
      related state state' → guard state input → step state input = some (next, fresh) →
      ∃ inputs' next', Run step' guard' state' inputs' (fresh.flatMap view) next' ∧
        related next next')
    (run : Run step guard start inputs outputs final) :
    ∃ inputs' final', Run step' guard' start' inputs' (outputs.flatMap view) final' ∧
      related final final' := by
  induction run with
  | nil => exact ⟨[], start', .nil, initial⟩
  | snoc _ allowed stepped inductionHypothesis =>
      obtain ⟨earlier, middle', before, reached⟩ := inductionHypothesis
      obtain ⟨later, next', after, kept⟩ := matched reached allowed stepped
      refine ⟨earlier ++ later, next', ?_, kept⟩
      rw [List.flatMap_append]
      exact before.trans after

/-- The simulation rule for an abstraction function. -/
theorem Run.projected
    (abstraction : σ → σ')
    (view : ω → List ω')
    (property : σ → Prop)
    (initial : property start)
    (matched : ∀ {state input next fresh},
      property state → guard state input → step state input = some (next, fresh) →
      property next ∧
        ∃ inputs', Run step' guard' (abstraction state) inputs' (fresh.flatMap view)
          (abstraction next))
    (run : Run step guard start inputs outputs final) :
    property final ∧
      ∃ inputs', Run step' guard' (abstraction start) inputs' (outputs.flatMap view)
        (abstraction final) := by
  obtain ⟨inputs', final', abstractRun, holds, rfl⟩ := run.simulated
    (fun state state' => property state ∧ state' = abstraction state) view ⟨initial, rfl⟩
    (by
      intro state input next fresh state' related allowed stepped
      obtain ⟨holds, rfl⟩ := related
      obtain ⟨kept, inputs', matching⟩ := matched holds allowed stepped
      exact ⟨inputs', _, matching, kept, rfl⟩)
  exact ⟨holds, inputs', abstractRun⟩

/-- **The rule of exact abstraction.** When, as long as a property holds, the steps of a
machine are those of an abstract one seen through an abstraction, its runs are the runs
of the abstract one. -/
theorem Run.iff_abstract
    {step : σ → ι → Option (σ × List ω)} {guard : σ → ι → Prop}
    {step' : σ' → ι → Option (σ' × List ω)} {guard' : σ' → ι → Prop}
    (abstraction : σ → σ')
    (property : σ' → Prop)
    (initial : property (abstraction start))
    (preserved : ∀ {state input next fresh},
      property state → guard' state input →
      step' state input = some (next, fresh) → property next)
    (guarded : ∀ state input, guard state input ↔ guard' (abstraction state) input)
    (commutes : ∀ state input, property (abstraction state) →
      (step state input).map (fun result => (abstraction result.1, result.2)) =
        step' (abstraction state) input)
    {inputs : List ι} {final' : σ'} :
    Run step' guard' (abstraction start) inputs outputs final' ↔
      ∃ final, Run step guard start inputs outputs final ∧ abstraction final = final' := by
  constructor
  · intro run
    induction run with
    | nil => exact ⟨start, .nil, rfl⟩
    | snoc before allowed stepped inductionHypothesis =>
        obtain ⟨middle, concrete, rfl⟩ := inductionHypothesis
        have holds := before.state_invariant property initial preserved
        rw [← commutes middle _ holds] at stepped
        obtain ⟨⟨next, fresh⟩, took, result⟩ := Option.map_eq_some_iff.mp stepped
        obtain ⟨rfl, rfl⟩ := Prod.mk.inj result
        exact ⟨next, concrete.snoc ((guarded _ _).mpr allowed) took, rfl⟩
  · rintro ⟨final, run, rfl⟩
    induction run with
    | nil => exact .nil
    | snoc before allowed stepped inductionHypothesis =>
        have holds := inductionHypothesis.state_invariant property initial preserved
        refine inductionHypothesis.snoc ((guarded _ _).mp allowed) ?_
        rw [← commutes _ _ holds, stepped]
        rfl

end Simulation

/-- A machine with the same transitions and other outputs has the same runs. -/
theorem Run.relabelled
    {ω' : Type*}
    {step : σ → ι → Option (σ × List ω)} {guard : σ → ι → Prop}
    {step' : σ → ι → Option (σ × List ω')}
    {start final : σ} {inputs : List ι} {outputs : List ω}
    (label : ι → List ω')
    (same : ∀ {state input next fresh}, step state input = some (next, fresh) →
      step' state input = some (next, label input))
    (run : Run step guard start inputs outputs final) :
    Run step' guard start inputs (inputs.flatMap label) final := by
  induction run with
  | nil => exact .nil
  | snoc _ allowed stepped inductionHypothesis =>
      rw [List.flatMap_append, List.flatMap_singleton]
      exact inductionHypothesis.snoc allowed (same stepped)

/-! ## History -/

/-- The machine with everything it has put out so far in its state, for guards
that look at the past. -/
def recorded (step : σ → ι → Option (σ × List ω)) (state : List ω × σ) (input : ι) :
    Option ((List ω × σ) × List ω) :=
  (step state.2 input).map fun (next, emitted) => ((state.1 ++ emitted, next), emitted)

section History

variable
  {step : σ → ι → Option (σ × List ω)}
  {guard : List ω × σ → ι → Prop}
  {start : σ}
  {inputs : List ι}
  {outputs : List ω}

theorem step_of_recorded
    {state next : List ω × σ} {input : ι} {emitted : List ω}
    (stepped : recorded step state input = some (next, emitted)) :
    step state.2 input = some (next.2, emitted) ∧ next.1 = state.1 ++ emitted := by
  simp only [recorded, Option.map_eq_some_iff, Prod.mk.injEq, Prod.exists] at stepped
  obtain ⟨following, fresh, result, rfl, rfl⟩ := stepped
  exact ⟨result, rfl⟩

/-- The invariant rule for recorded runs: the recorded history is the output. -/
theorem Run.history_invariant
    (property : List ω → σ → Prop)
    {final : List ω × σ}
    (initial : property [] start)
    (preserved : ∀ {history state input next fresh},
      property history state → guard (history, state) input →
      step state input = some (next, fresh) →
      property (history ++ fresh) next)
    (run : Run (recorded step) guard ([], start) inputs outputs final) :
    final.1 = outputs ∧ property outputs final.2 := by
  apply run.invariant (fun history state => state.1 = history ∧ property history state.2)
    ⟨rfl, initial⟩
  intro history state input next fresh holds allowed stepped
  obtain ⟨same, kept⟩ := holds
  obtain ⟨result, grown⟩ := step_of_recorded stepped
  refine ⟨by rw [grown, same], preserved kept ?_ result⟩
  rw [← same]
  exact allowed

end History

/-! ## Execution -/

/-- Run the machine on a list of inputs, checking the guard at every step. -/
def exec
    (step : σ → ι → Option (σ × List ω))
    (guard : σ → ι → Prop)
    [∀ state input, Decidable (guard state input)] :
    σ → List ι → Option (σ × List ω)
  | start, [] => some (start, [])
  | start, input :: rest =>
      if guard start input then
        (step start input).bind fun (middle, emitted) =>
          (exec step guard middle rest).map fun (final, outputs) =>
            (final, emitted ++ outputs)
      else none

/-- Whatever the interpreter returns is a guarded run. -/
theorem exec_run
    {step : σ → ι → Option (σ × List ω)}
    {guard : σ → ι → Prop}
    [∀ state input, Decidable (guard state input)]
    {inputs : List ι} {start final : σ} {outputs : List ω}
    (executed : exec step guard start inputs = some (final, outputs)) :
    Run step guard start inputs outputs final := by
  induction inputs generalizing start outputs with
  | nil =>
      simp only [exec, Option.some.injEq, Prod.mk.injEq] at executed
      obtain ⟨rfl, rfl⟩ := executed
      exact .nil
  | cons input rest inductionHypothesis =>
      simp only [exec] at executed
      split at executed
      case isFalse => contradiction
      case isTrue allowed =>
        obtain ⟨⟨middle, emitted⟩, stepped, executed⟩ :=
          Option.bind_eq_some_iff.mp executed
        obtain ⟨⟨reached, suffix⟩, tail, same⟩ :=
          Option.map_eq_some_iff.mp executed
        simp only [Prod.mk.injEq] at same
        obtain ⟨rfl, rfl⟩ := same
        exact (Run.single allowed stepped).trans (inductionHypothesis tail)

/-- A run checked by evaluation: what a Boolean test says of the interpreter's
result holds at the end of a guarded run on the same inputs. -/
theorem run_of_exec_any
    {step : σ → ι → Option (σ × List ω)}
    {guard : σ → ι → Prop}
    [∀ state input, Decidable (guard state input)]
    {inputs : List ι} {start : σ}
    (test : σ → List ω → Bool)
    (checked : (exec step guard start inputs).any (fun result =>
      test result.1 result.2) = true) :
    ∃ final outputs,
      Run step guard start inputs outputs final ∧ test final outputs = true := by
  cases executed : exec step guard start inputs with
  | none => simp [executed] at checked
  | some result =>
      obtain ⟨final, outputs⟩ := result
      rw [executed] at checked
      exact ⟨final, outputs, exec_run executed, checked⟩

end Machine
