import Mathlib.Data.List.Basic

/-! Batches of fallible steps: inputs are taken in order until a step fails.

What was taken before the failure stays taken. In a store under keys, that is
the last input taken under each key.
-/

set_option autoImplicit false

namespace Foundation

variable {σ ι ε κ : Type} (step : σ → ι → Except ε Unit × σ)

def batch : σ → List ι → Except ε Unit × σ
  | state, [] => (.ok (), state)
  | state, input :: later =>
      match step state input with
      | (.error error, rejected) => (.error error, rejected)
      | (.ok _, accepted) => batch accepted later

/-- The inputs before the first one that is rejected. -/
def taken : σ → List ι → List ι
  | _, [] => []
  | state, input :: later =>
      match step state input with
      | (.error _, _) => []
      | (.ok _, accepted) => input :: taken accepted later

variable {step}

theorem batch_cons_of_ok {state : σ} {input : ι} (accepted : (step state input).1 = .ok ()) (later : List ι) :
    batch step state (input :: later) = batch step (step state input).2 later := by
  rw [batch, ← Prod.eta (step state input), accepted]

theorem batch_cons_of_error {state : σ} {input : ι} {error : ε} (rejected : (step state input).1 = .error error)
    (later : List ι) : batch step state (input :: later) = (.error error, (step state input).2) := by
  rw [batch, ← Prod.eta (step state input), rejected]

theorem taken_cons_of_ok {state : σ} {input : ι} (accepted : (step state input).1 = .ok ()) (later : List ι) :
    taken step state (input :: later) = input :: taken step (step state input).2 later := by
  rw [taken, ← Prod.eta (step state input), accepted]

theorem taken_of_done {state : σ} {inputs : List ι} (done : (batch step state inputs).1 = .ok ()) :
    taken step state inputs = inputs := by
  induction inputs generalizing state with
  | nil => rfl
  | cons input rest ih =>
    cases verdict : (step state input).1 with
    | error other =>
      rw [batch_cons_of_error verdict] at done
      exact nomatch done
    | ok =>
      rw [batch_cons_of_ok verdict] at done
      rw [taken_cons_of_ok verdict, ih done]

theorem taken_append_rejected {state : σ} {made later : List ι} {rejected : ι} {error : ε}
    (done : (batch step state made).1 = .ok ())
    (refused : (step (batch step state made).2 rejected).1 = .error error) :
    taken step state (made ++ rejected :: later) = made := by
  induction made generalizing state with
  | nil =>
    have first : (step state rejected).1 = .error error := refused
    rw [List.nil_append, taken, ← Prod.eta (step state rejected), first]
  | cons input rest ih =>
    cases verdict : (step state input).1 with
    | error other =>
      rw [batch_cons_of_error verdict] at done
      exact nomatch done
    | ok =>
      rw [batch_cons_of_ok verdict] at done refused
      rw [List.cons_append, taken_cons_of_ok verdict, ih done refused]

theorem batch_error {state : σ} {inputs : List ι} {error : ε}
    (failed : (batch step state inputs).1 = .error error) :
    ∃ made rejected later, inputs = made ++ rejected :: later ∧ (batch step state made).1 = .ok () ∧
      (step (batch step state made).2 rejected).1 = .error error ∧
      (batch step state inputs).2 = (step (batch step state made).2 rejected).2 := by
  induction inputs generalizing state with
  | nil => exact nomatch failed
  | cons input rest ih =>
    cases verdict : (step state input).1 with
    | error other =>
      rw [batch_cons_of_error verdict] at failed ⊢
      cases failed
      exact ⟨[], input, rest, rfl, rfl, verdict, rfl⟩
    | ok =>
      rw [batch_cons_of_ok verdict] at failed ⊢
      obtain ⟨made, rejected, later, rfl, taken, refused, final⟩ := ih failed
      refine ⟨input :: made, rejected, later, rfl, ?_⟩
      rw [batch_cons_of_ok verdict]
      exact ⟨taken, refused, final⟩

/-- Where an accepted step stores its input under its key, a batch leaves the
last input under each key. -/
theorem lookup_batch [DecidableEq κ] (lookup : σ → κ → Option ι) (keyOf : ι → κ)
    (stores : ∀ state input, (step state input).1 = .ok () → ∀ key,
      lookup (step state input).2 key = if key = keyOf input then some input else lookup state key)
    {state : σ} {inputs : List ι} (done : (batch step state inputs).1 = .ok ()) (key : κ) :
    lookup (batch step state inputs).2 key =
      (inputs.reverse.find? fun input => key = keyOf input).or (lookup state key) := by
  induction inputs generalizing state with
  | nil => rfl
  | cons input rest ih =>
    cases verdict : (step state input).1 with
    | error other =>
      rw [batch_cons_of_error verdict] at done
      exact nomatch done
    | ok =>
      rw [batch_cons_of_ok verdict] at done ⊢
      rw [ih done, stores state input verdict, List.reverse_cons, List.find?_append, Option.or_assoc]
      by_cases same : key = keyOf input <;> simp [same]

theorem lookup_taken [DecidableEq κ] (lookup : σ → κ → Option ι) (keyOf : ι → κ)
    (stores : ∀ state input, (step state input).1 = .ok () → ∀ key,
      lookup (step state input).2 key = if key = keyOf input then some input else lookup state key)
    (keeps : ∀ state input error, (step state input).1 = .error error → ∀ key,
      lookup (step state input).2 key = lookup state key)
    (state : σ) (inputs : List ι) (key : κ) :
    lookup (batch step state inputs).2 key =
      ((taken step state inputs).reverse.find? fun input => key = keyOf input).or (lookup state key) := by
  cases verdict : (batch step state inputs).1 with
  | ok =>
    rw [taken_of_done verdict]
    exact lookup_batch lookup keyOf stores verdict key
  | error error =>
    obtain ⟨made, rejected, later, rfl, done, refused, final⟩ := batch_error verdict
    rw [final, keeps _ _ _ refused, taken_append_rejected done refused]
    exact lookup_batch lookup keyOf stores done key

end Foundation
