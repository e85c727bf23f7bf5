import Mathlib.Data.List.Induction
import Mathlib.Order.Bounds.Basic
import Mathlib.Order.MinMax

/-! Runs of a deterministic machine over a list of inputs.

The rules lift a fact about one step to a whole run: an unconditional
invariant, an invariant of the runs whose steps all meet a guard, and an exact
guard, which separates the runs that stay good, or that are not lost in the
end, from the others. A value that single inputs set is what the last of them
wrote, and a second machine on the same inputs may stand for the first. Where
steps put something out, the outputs may be replayed on a view of the state.
-/

set_option autoImplicit false

namespace Foundation

variable {σ ι : Type} (step : σ → ι → σ)

def run (state : σ) (inputs : List ι) : σ := inputs.foldl step state

@[simp] theorem run_nil (state : σ) : run step state [] = state := rfl

@[simp] theorem run_cons (state : σ) (input : ι) (rest : List ι) :
    run step state (input :: rest) = run step (step state input) rest := rfl

theorem run_append (state : σ) (first second : List ι) :
    run step state (first ++ second) = run step (run step state first) second :=
  List.foldl_append

theorem run_injective (keeps : ∀ input, Function.Injective fun state => step state input) (inputs : List ι) :
    Function.Injective fun state => run step state inputs := by
  induction inputs with
  | nil => exact Function.injective_id
  | cons input rest ih => exact ih.comp (keeps input)

theorem run_eq_iff_of_changed (keeps : ∀ input, Function.Injective fun state => step state input)
    (tells : ∀ state, Function.Injective (step state)) (state : σ) (before : List ι) (input other : ι)
    (after : List ι) :
    run step state (before ++ input :: after) = run step state (before ++ other :: after) ↔ input = other := by
  rw [run_append, run_append, run_cons, run_cons]
  constructor
  · intro same
    apply tells (run step state before)
    exact run_injective step keeps after same
  · intro same
    rw [same]

/-- The last input that is marked, with those after it. -/
def Last (marked : ι → Prop) (inputs earlier : List ι) (last : ι) (later : List ι) : Prop :=
  inputs = earlier ++ last :: later ∧ marked last ∧ ∀ input ∈ later, ¬marked input

theorem exists_last (marked : ι → Prop) (inputs : List ι) :
    (∀ input ∈ inputs, ¬marked input) ∨ ∃ earlier last later, Last marked inputs earlier last later := by
  induction inputs with
  | nil => exact Or.inl nofun
  | cons input rest ih =>
    rcases ih with unmarked | ⟨earlier, last, later, rfl, isMarked, unmarked⟩
    · by_cases isMarked : marked input
      · exact Or.inr ⟨[], input, rest, rfl, isMarked, unmarked⟩
      · exact Or.inl (List.forall_mem_cons.mpr ⟨isMarked, unmarked⟩)
    · exact Or.inr ⟨input :: earlier, last, later, rfl, isMarked, unmarked⟩

theorem run_of_forall_same {state : σ} {inputs : List ι} (same : ∀ input ∈ inputs, step state input = state) :
    run step state inputs = state := by
  induction inputs with
  | nil => rfl
  | cons input rest ih =>
    rw [List.forall_mem_cons] at same
    rw [run_cons, same.1, ih same.2]

/-- Every step of the run meets the guard in the state it is taken from. -/
def Guarded (guard : σ → ι → Prop) : σ → List ι → Prop
  | _, [] => True
  | state, input :: rest => guard state input ∧ Guarded guard (step state input) rest

instance decidableGuarded (guard : σ → ι → Prop) [∀ state input, Decidable (guard state input)] :
    ∀ state inputs, Decidable (Guarded step guard state inputs)
  | _, [] => isTrue trivial
  | state, input :: rest =>
      have := decidableGuarded guard (step state input) rest
      inferInstanceAs (Decidable (guard state input ∧ Guarded step guard (step state input) rest))

variable {step} {good : σ → Prop} {guard : σ → ι → Prop}

theorem run_invariant_of_mem {inv : σ → Prop} {inputs : List ι}
    (preserved : ∀ input ∈ inputs, ∀ state, inv state → inv (step state input))
    {state : σ} (start : inv state) : inv (run step state inputs) := by
  induction inputs generalizing state with
  | nil => exact start
  | cons input rest ih =>
    exact ih (fun other member => preserved other (List.mem_cons_of_mem _ member))
      (preserved input List.mem_cons_self state start)

theorem run_invariant {inv : σ → Prop} (preserved : ∀ state input, inv state → inv (step state input))
    {state : σ} (start : inv state) (inputs : List ι) : inv (run step state inputs) :=
  run_invariant_of_mem (fun input _ state => preserved state input) start

theorem run_related_of_mem {τ : Type} {other : τ → ι → τ} {related : σ → τ → Prop} {inputs : List ι}
    (preserved : ∀ input ∈ inputs, ∀ state image, related state image →
      related (step state input) (other image input))
    {state : σ} {image : τ} (start : related state image) :
    related (run step state inputs) (run other image inputs) := by
  induction inputs generalizing state image with
  | nil => exact start
  | cons input rest ih =>
    exact ih (fun later member => preserved later (List.mem_cons_of_mem _ member))
      (preserved input List.mem_cons_self state image start)

/-- A value that some inputs set, in view of the state, and the others leave: it
is what the last input that sets it wrote in the state that it found. -/
theorem run_eq_some_iff_at {α : Type} (value : σ → Option α) {sets : ι → Prop} {written : σ → ι → Option α}
    {state : σ} (start : value state = none)
    (set : ∀ state input, sets input → value (step state input) = written state input)
    (kept : ∀ state input, ¬sets input → value (step state input) = value state)
    (inputs : List ι) (content : α) :
    value (run step state inputs) = some content ↔ ∃ earlier last later,
      Last sets inputs earlier last later ∧ written (run step state earlier) last = some content := by
  have keeps {others : List ι} (unset : ∀ input ∈ others, ¬sets input) (before : σ) :
      value (run step before others) = value before := by
    have preserved : ∀ input ∈ others, ∀ after, value after = value before →
        value (step after input) = value before :=
      fun input member after same => (kept after input (unset input member)).trans same
    exact run_invariant_of_mem preserved rfl
  constructor
  · intro holds
    rcases exists_last sets inputs with unset | ⟨earlier, last, later, isLast⟩
    · rw [keeps unset, start] at holds
      exact nomatch holds
    · refine ⟨earlier, last, later, isLast, ?_⟩
      obtain ⟨rfl, isSet, unset⟩ := isLast
      rwa [run_append, run_cons, keeps unset, set _ _ isSet] at holds
  · rintro ⟨earlier, last, later, ⟨rfl, isSet, unset⟩, wrote⟩
    rw [run_append, run_cons, keeps unset, set _ _ isSet, wrote]

theorem run_eq_some_iff {α : Type} (value : σ → Option α) {sets : ι → Prop} {written : ι → Option α}
    {state : σ} (start : value state = none)
    (set : ∀ state input, sets input → value (step state input) = written input)
    (kept : ∀ state input, ¬sets input → value (step state input) = value state)
    (inputs : List ι) (content : α) :
    value (run step state inputs) = some content ↔
      ∃ earlier last later, Last sets inputs earlier last later ∧ written last = some content :=
  run_eq_some_iff_at value start set kept inputs content

theorem Guarded.invariant {inv : σ → Prop}
    (preserved : ∀ state input, inv state → guard state input → inv (step state input))
    {state : σ} (start : inv state) {inputs : List ι} (guarded : Guarded step guard state inputs) :
    inv (run step state inputs) := by
  induction inputs generalizing state with
  | nil => exact start
  | cons input rest ih => exact ih (preserved state input start guarded.1) guarded.2

theorem Guarded.related {τ : Type} {other : τ → ι → τ} {related : σ → τ → Prop}
    (preserved : ∀ state image input, related state image → guard state input →
      related (step state input) (other image input))
    {state : σ} {image : τ} (start : related state image) {inputs : List ι}
    (guarded : Guarded step guard state inputs) : related (run step state inputs) (run other image inputs) := by
  induction inputs generalizing state image with
  | nil => exact start
  | cons input rest ih => exact ih (preserved state image input start guarded.1) guarded.2

theorem guarded_append {state : σ} {first second : List ι} :
    Guarded step guard state (first ++ second) ↔
      Guarded step guard state first ∧ Guarded step guard (run step state first) second := by
  induction first generalizing state with
  | nil => simp [Guarded]
  | cons input rest ih => rw [List.cons_append, Guarded, ih, Guarded, run_cons, and_assoc]

theorem Guarded.of_append {state : σ} {first second : List ι}
    (guarded : Guarded step guard state (first ++ second)) : Guarded step guard state first :=
  (guarded_append.mp guarded).1

theorem Guarded.mono {weaker : σ → ι → Prop} (implies : ∀ state input, guard state input → weaker state input)
    {state : σ} {inputs : List ι} (guarded : Guarded step guard state inputs) : Guarded step weaker state inputs := by
  induction inputs generalizing state with
  | nil => trivial
  | cons input rest ih => exact ⟨implies state input guarded.1, ih guarded.2⟩

theorem Guarded.forall {allowed : ι → Prop} {state : σ} {inputs : List ι}
    (guarded : Guarded step (fun _ => allowed) state inputs) : ∀ input ∈ inputs, allowed input := by
  induction inputs generalizing state with
  | nil => exact nofun
  | cons input rest ih => exact List.forall_mem_cons.mpr ⟨guarded.1, ih guarded.2⟩

/-- Where a step off the guard is lost for good, a run is guarded or it ends up lost. -/
theorem guarded_or_run {inv lost : σ → Prop}
    (preserved : ∀ state input, inv state → guard state input → inv (step state input))
    (loses : ∀ state input, inv state → ¬guard state input → lost (step state input))
    (stays : ∀ state input, lost state → lost (step state input)) {state : σ} (start : inv state)
    (inputs : List ι) : Guarded step guard state inputs ∨ lost (run step state inputs) := by
  induction inputs generalizing state with
  | nil => exact Or.inl trivial
  | cons input rest ih =>
    by_cases met : guard state input
    · rcases ih (preserved state input start met) with guarded | ended
      · exact Or.inl ⟨met, guarded⟩
      · exact Or.inr ended
    · exact Or.inr (run_invariant stays (loses state input start met) rest)

def Always (step : σ → ι → σ) (good : σ → Prop) (state : σ) (inputs : List ι) : Prop :=
  ∀ done rest, inputs = done ++ rest → good (run step state done)

theorem always_nil {state : σ} : Always step good state [] ↔ good state := by
  constructor
  · exact fun always => always [] [] rfl
  · intro holds done rest split
    rwa [(List.append_eq_nil_iff.mp split.symm).1]

theorem always_cons {state : σ} {input : ι} {rest : List ι} :
    Always step good state (input :: rest) ↔ good state ∧ Always step good (step state input) rest := by
  constructor
  · intro always
    exact ⟨always [] (input :: rest) rfl,
      fun done tail split => always (input :: done) tail (congrArg (input :: ·) split)⟩
  · rintro ⟨now, later⟩ done tail split
    cases done with
    | nil => exact now
    | cons first done =>
      obtain ⟨rfl, remaining⟩ := List.cons.inj split
      exact later done tail remaining

instance decidableAlways [∀ state, Decidable (good state)] :
    ∀ state inputs, Decidable (Always step good state inputs)
  | _, [] => decidable_of_iff _ always_nil.symm
  | state, input :: rest =>
      have := decidableAlways (step state input) rest
      decidable_of_iff _ always_cons.symm

theorem Guarded.always {inv : σ → Prop}
    (preserved : ∀ state input, inv state → guard state input → inv (step state input))
    (suffices_good : ∀ state, inv state → good state) {state : σ} (start : inv state)
    {inputs : List ι} (guarded : Guarded step guard state inputs) :
    Always step good state inputs := by
  rintro done rest rfl
  exact suffices_good _ (Guarded.invariant preserved start guarded.of_append)

/-- Where the guard of a step is exactly what keeps the next state good, a run
stays good exactly when all its steps are guarded. -/
theorem always_iff_guarded (inv : σ → Prop)
    (preserved : ∀ state input, inv state → guard state input → inv (step state input))
    (suffices_good : ∀ state, inv state → good state)
    (exact_guard : ∀ state input, inv state → good (step state input) → guard state input)
    {state : σ} (start : inv state) (inputs : List ι) :
    Always step good state inputs ↔ Guarded step guard state inputs := by
  constructor
  · intro always
    induction inputs generalizing state with
    | nil => trivial
    | cons input rest ih =>
      -- the state after this step is one the run passes through
      have met : guard state input :=
        exact_guard state input start (always [input] rest rfl)
      refine ⟨met, ih (preserved state input start met) ?_⟩
      rintro done tail rfl
      exact always (input :: done) tail rfl
  · exact Guarded.always preserved suffices_good start

/-- Where each state has a guarded step to a lower rank or is good, guarded
steps lead to a good state. -/
theorem exists_run_of_rank {α : Type} [LT α] [WellFoundedLT α] (rank : σ → α) {inv : σ → Prop}
    (advances : ∀ state, inv state → good state ∨
      ∃ input, guard state input ∧ inv (step state input) ∧ rank (step state input) < rank state)
    {state : σ} (start : inv state) :
    ∃ inputs, Guarded step guard state inputs ∧ good (run step state inputs) := by
  generalize level : rank state = value
  induction value using WellFoundedLT.induction generalizing state with
  | ind value ih =>
    subst level
    rcases advances state start with reached | ⟨input, met, kept, lower⟩
    · exact ⟨[], trivial, reached⟩
    · obtain ⟨rest, guarded, reached⟩ := ih _ lower kept rfl
      exact ⟨input :: rest, ⟨met, guarded⟩, reached⟩

theorem Always.of_append {state : σ} {first second : List ι}
    (always : Always step good state (first ++ second)) : Always step good state first := by
  rintro done rest rfl
  exact always done (rest ++ second) (List.append_assoc _ _ _)

theorem Always.invariant {inv : σ → Prop}
    (preserved : ∀ state input, inv state → good (step state input) → inv (step state input))
    {state : σ} (start : inv state) {inputs : List ι} (always : Always step good state inputs) :
    inv (run step state inputs) := by
  induction inputs using List.reverseRecOn with
  | nil => exact start
  | append_singleton earlier input ih =>
    have reached := always (earlier ++ [input]) [] (List.append_nil _).symm
    rw [run_append] at reached ⊢
    exact preserved _ input (ih always.of_append) reached

/-- The states from the last restart on: nothing restarts after `done`. -/
def Since (restart : ι → Prop) (inputs done : List ι) : Prop :=
  ∃ rest, inputs = done ++ rest ∧ ∀ input ∈ rest, ¬restart input

theorem since_append_singleton {restart : ι → Prop} {earlier done : List ι} {input : ι} :
    Since restart (earlier ++ [input]) done ↔
      done = earlier ++ [input] ∨ ¬restart input ∧ Since restart earlier done := by
  constructor
  · rintro ⟨rest, split, none⟩
    induction rest using List.reverseRecOn with
    | nil => exact Or.inl (by rw [split, List.append_nil])
    | append_singleton before last _ =>
      rw [← List.append_assoc] at split
      obtain ⟨rfl, same⟩ := List.append_inj' split rfl
      cases same
      exact Or.inr ⟨none input (List.mem_append_right _ List.mem_cons_self), before, rfl,
        fun other member => none other (List.mem_append_left _ member)⟩
  · rintro (rfl | ⟨kept, rest, rfl, none⟩)
    · exact ⟨[], (List.append_nil _).symm, nofun⟩
    · refine ⟨rest ++ [input], List.append_assoc _ _ _, fun other member => ?_⟩
      rcases List.mem_append.mp member with earlier | last
      · exact none other earlier
      · rwa [List.mem_singleton.mp last]

/-- A peak that each step raises to the new level, and that a restart sets to
it, is the greatest level since the last restart. -/
theorem isGreatest_since {α : Type} [LinearOrder α] (level peak : σ → α) (restart : ι → Prop)
    {state : σ} (start : peak state = level state) {inputs : List ι}
    (restarts : ∀ earlier input rest, inputs = earlier ++ input :: rest → restart input →
      peak (step (run step state earlier) input) = level (step (run step state earlier) input))
    (raises : ∀ earlier input rest, inputs = earlier ++ input :: rest → ¬restart input →
      peak (step (run step state earlier) input) =
        max (peak (run step state earlier)) (level (step (run step state earlier) input))) :
    IsGreatest { value | ∃ done, Since restart inputs done ∧ value = level (run step state done) }
      (peak (run step state inputs)) := by
  induction inputs using List.reverseRecOn with
  | nil =>
    refine ⟨⟨[], ⟨[], rfl, nofun⟩, start⟩, ?_⟩
    rintro value ⟨done, ⟨rest, split, _⟩, rfl⟩
    rw [(List.append_eq_nil_iff.mp split.symm).1]
    exact start.ge
  | append_singleton earlier input ih =>
    have before := ih
      (fun first other rest split => restarts first other (rest ++ [input]) (by rw [split]; simp))
      (fun first other rest split => raises first other (rest ++ [input]) (by rw [split]; simp))
    have last : run step state (earlier ++ [input]) = step (run step state earlier) input :=
      run_append step state earlier [input]
    by_cases isRestart : restart input
    · -- only the new state counts
      have peak_eq := restarts earlier input [] rfl isRestart
      refine ⟨⟨_, since_append_singleton.mpr (Or.inl rfl), by rw [last, peak_eq]⟩, ?_⟩
      rintro value ⟨done, since, rfl⟩
      rcases since_append_singleton.mp since with rfl | ⟨kept, _⟩
      · rw [last, peak_eq]
      · exact absurd isRestart kept
    · have peak_eq := raises earlier input [] rfl isRestart
      rw [last, peak_eq]
      constructor
      · rcases max_choice (peak (run step state earlier)) (level (step (run step state earlier) input)) with
          old | new
        · obtain ⟨done, since, same⟩ := before.1
          exact ⟨done, since_append_singleton.mpr (Or.inr ⟨isRestart, since⟩), old.trans same⟩
        · exact ⟨_, since_append_singleton.mpr (Or.inl rfl), by rw [new, last]⟩
      · rintro value ⟨done, since, rfl⟩
        rcases since_append_singleton.mp since with rfl | ⟨_, since⟩
        · rw [last]
          exact le_max_right _ _
        · exact (before.2 ⟨done, since, rfl⟩).trans (le_max_left _ _)

/-- Partial writes to a function, one after the other: each argument has the value
of the last write that covers it. -/
theorem run_overlay {α β : Type} (written : ι → α → Option β) (base : α → β) (inputs : List ι) (argument : α) :
    run (fun function input other => (written input other).getD (function other)) base inputs argument =
      (inputs.reverse.findSome? fun input => written input argument).getD (base argument) := by
  induction inputs using List.reverseRecOn with
  | nil => rfl
  | append_singleton earlier input ih =>
    rw [run_append, run_cons, run_nil, ih, List.reverse_append, List.reverse_singleton,
      List.singleton_append, List.findSome?_cons]
    cases written input argument <;> rfl

/-! ## Outputs -/

section Outputs

variable {ω τ : Type}

def outputs (step : σ → ι → σ × List ω) : σ → List ι → List ω
  | _, [] => []
  | state, input :: rest => (step state input).2 ++ outputs step (step state input).1 rest

theorem outputs_append (step : σ → ι → σ × List ω) (state : σ) (first second : List ι) :
    outputs step state (first ++ second) = outputs step state first ++
      outputs step (run (fun state input => (step state input).1) state first) second := by
  induction first generalizing state with
  | nil => rfl
  | cons input rest ih =>
    rw [List.cons_append, outputs, outputs, ih, List.append_assoc]
    rfl

/-- Where the outputs of one step carry a view of the state before it to the
view of the state after it, those of a whole run do. -/
theorem replay_outputs {step : σ → ι → σ × List ω} {inv : σ → Prop} (view : σ → τ) (apply : τ → ω → τ)
    (preserved : ∀ state input, inv state → inv (step state input).1)
    (explained : ∀ state input, inv state →
      (step state input).2.foldl apply (view state) = view (step state input).1)
    {state : σ} (start : inv state) (inputs : List ι) :
    (outputs step state inputs).foldl apply (view state) =
      view (run (fun state input => (step state input).1) state inputs) := by
  induction inputs generalizing state with
  | nil => rfl
  | cons input rest ih =>
    rw [outputs, List.foldl_append, explained state input start, run_cons]
    exact ih (preserved state input start)

theorem Guarded.replay {step : σ → ι → σ × List ω} {guard : σ → ι → Prop} (view : σ → τ) (apply : τ → ω → τ)
    (explained : ∀ state input, guard state input →
      (step state input).2.foldl apply (view state) = view (step state input).1)
    {state : σ} {inputs : List ι}
    (guarded : Guarded (fun state input => (step state input).1) guard state inputs) :
    view (run (fun state input => (step state input).1) state inputs) =
      run apply (view state) (outputs step state inputs) := by
  induction inputs generalizing state with
  | nil => rfl
  | cons input rest ih =>
    rw [outputs, run_append, run_cons, ih guarded.2, ← explained state input guarded.1]
    rfl

end Outputs

end Foundation
