import DevilzDen.Foundation.Program
import DevilzDen.Foundation.Search

/-! Programs that read cells of a memory, one at a time.

A program computes a value from a memory, and has a footprint in it: the cells
that it reads. `Program.All` bounds the footprint in every memory, and the last
part puts the reads of a program among its actions on a store.
-/

set_option autoImplicit false

namespace Foundation

abbrev Reading (Cell Value α : Type) := Program Cell (fun _ => Value) α

namespace Reading

variable {Cell Value α β : Type} {memory : Cell → Value}

def read (cell : Cell) : Reading Cell Value Value := .perform cell .done

def map (function : α → β) (program : Reading Cell Value α) : Reading Cell Value β :=
  program.bind fun value => .done (function value)

def value (memory : Cell → Value) : Reading Cell Value α → α
  | .done value => value
  | .perform cell next => value memory (next (memory cell))

/-- The cells that a program reads of a memory, in their order. -/
def footprint (memory : Cell → Value) : Reading Cell Value α → List Cell
  | .done _ => []
  | .perform cell next => cell :: footprint memory (next (memory cell))

@[simp] theorem value_done (result : α) : value memory (.done result : Reading Cell Value α) = result := rfl

@[simp] theorem footprint_done (result : α) : footprint memory (.done result : Reading Cell Value α) = [] := rfl

@[simp] theorem value_read (cell : Cell) : value memory (read cell) = memory cell := rfl

@[simp] theorem footprint_read (cell : Cell) : footprint memory (read cell) = [cell] := rfl

@[simp] theorem value_bind (program : Reading Cell Value α) (next : α → Reading Cell Value β) :
    value memory (program.bind next) = value memory (next (value memory program)) := by
  induction program with
  | done result => rfl
  | perform cell rest ih => exact ih _

@[simp] theorem footprint_bind (program : Reading Cell Value α) (next : α → Reading Cell Value β) :
    footprint memory (program.bind next) =
      footprint memory program ++ footprint memory (next (value memory program)) := by
  induction program with
  | done result => rfl
  | perform cell rest ih => exact congrArg (cell :: ·) (ih _)

@[simp] theorem value_map (function : α → β) (program : Reading Cell Value α) :
    value memory (map function program) = function (value memory program) := value_bind _ _

@[simp] theorem footprint_map (function : α → β) (program : Reading Cell Value α) :
    footprint memory (map function program) = footprint memory program := by
  rw [map, footprint_bind, footprint_done, List.append_nil]

theorem forall_footprint {allowed : Cell → Prop} {program : Reading Cell Value α} (all : program.All allowed) :
    ∀ cell ∈ footprint memory program, allowed cell := by
  induction program with
  | done result => exact nofun
  | perform cell next ih => exact List.forall_mem_cons.mpr ⟨all.1, ih _ (all.2 _)⟩

/-- A program depends on nothing but its footprint. -/
theorem value_congr {other : Cell → Value} {program : Reading Cell Value α}
    (agree : ∀ cell ∈ footprint memory program, other cell = memory cell) :
    value other program = value memory program := by
  induction program with
  | done result => rfl
  | perform cell next ih =>
    obtain ⟨first, later⟩ := List.forall_mem_cons.mp agree
    rw [value, first, value]
    exact ih _ later

def all (test : Nat → Reading Cell Value Bool) : (remaining position : Nat) → Reading Cell Value Bool
  | 0, _ => .done true
  | remaining + 1, position =>
      (test position).bind fun passed => if passed then all test remaining (position + 1) else .done false

theorem value_all {test : Nat → Reading Cell Value Bool} {expected : Nat → Bool} {remaining position : Nat}
    (agree : ∀ visited, position ≤ visited → visited < position + remaining →
      value memory (test visited) = expected visited) :
    value memory (all test remaining position) = (List.range' position remaining).all expected := by
  induction remaining generalizing position with
  | zero => rfl
  | succ remaining ih =>
    rw [all, value_bind, List.range'_succ, List.all_cons, agree position (by omega) (by omega)]
    cases expected position with
    | false => rfl
    | true => exact ih fun visited after before => agree visited (by omega) (by omega)

theorem all_all {allowed : Cell → Prop} {test : Nat → Reading Cell Value Bool} {remaining position : Nat}
    (tests : ∀ visited, position ≤ visited → visited < position + remaining → (test visited).All allowed) :
    (all test remaining position).All allowed := by
  induction remaining generalizing position with
  | zero => trivial
  | succ remaining ih =>
    apply Program.all_bind (tests position (by omega) (by omega))
    intro passed
    cases passed with
    | false => trivial
    | true => exact ih fun visited after before => tests visited (by omega) (by omega)

/-- The bounded linear search, with a test that reads. -/
def search (accept : Nat → Reading Cell Value (Option β)) (maximum : Nat) :
    (remaining position : Nat) → (found : List β) → Reading Cell Value (List β × Nat)
  | 0, _, found => .done (found, 0)
  | remaining + 1, position, found =>
      if found.length < maximum then
        (accept position).bind fun verdict =>
          (search accept maximum remaining (position + 1) (found ++ verdict.toList)).map fun outcome =>
            (outcome.1, outcome.2 + 1)
      else .done (found, 0)

theorem value_search {accept : Nat → Reading Cell Value (Option β)} {expected : Nat → Option β}
    {maximum remaining position : Nat}
    (agree : ∀ visited, position ≤ visited → visited < position + remaining →
      value memory (accept visited) = expected visited) (found : List β) :
    value memory (search accept maximum remaining position found) =
      Foundation.search expected maximum remaining position found := by
  induction remaining generalizing position found with
  | zero => rfl
  | succ remaining ih =>
    rw [search, Foundation.search]
    split
    · rw [value_bind, value_map, agree position (by omega) (by omega),
        ih fun visited after before => agree visited (by omega) (by omega)]
    · rfl

theorem all_search {allowed : Cell → Prop} {accept : Nat → Reading Cell Value (Option β)}
    {maximum remaining position : Nat}
    (tests : ∀ visited, position ≤ visited → visited < position + remaining → (accept visited).All allowed)
    (found : List β) : (search accept maximum remaining position found).All allowed := by
  induction remaining generalizing position found with
  | zero => trivial
  | succ remaining ih =>
    rw [search]
    split
    · apply Program.all_bind (tests position (by omega) (by omega))
      intro verdict
      apply Program.all_bind (ih (fun visited after before => tests visited (by omega) (by omega)) _)
      intro _
      trivial
    · trivial

def block : List Cell → Reading Cell Value (List Value)
  | [] => .done []
  | cell :: later => (read cell).bind fun first => (block later).map fun rest => first :: rest

theorem value_block (cells : List Cell) : value memory (block cells) = cells.map memory := by
  induction cells with
  | nil => rfl
  | cons cell later ih => rw [block, value_bind, value_map, ih, value_read, List.map_cons]

theorem footprint_block (cells : List Cell) :
    footprint memory (block cells : Reading Cell Value (List Value)) = cells := by
  induction cells with
  | nil => rfl
  | cons cell later ih => rw [block, footprint_bind, footprint_map, ih, footprint_read, List.singleton_append]

theorem all_block {allowed : Cell → Prop} {cells : List Cell} (each : ∀ cell ∈ cells, allowed cell) :
    (block cells : Reading Cell Value (List Value)).All allowed := by
  induction cells with
  | nil => trivial
  | cons cell later ih =>
    obtain ⟨first, rest⟩ := List.forall_mem_cons.mp each
    have one : (read cell : Reading Cell Value Value).All allowed := ⟨first, fun _ => trivial⟩
    apply Program.all_bind one
    intro value
    exact Program.all_bind (ih rest) fun _ => trivial

section Store

variable {Action σ : Type} {Reply : Action → Type}

abbrev Answer (Reply : Action → Type) (Cell Value : Type) : Action ⊕ Cell → Type
  | .inl action => Reply action
  | .inr _ => Value

/-- A store beside a memory, with the cells read so far. -/
def handler (memory : Cell → Value) (store : Handler Action Reply σ) :
    Handler (Action ⊕ Cell) (Answer Reply Cell Value) (σ × List Cell)
  | .inl action, (state, cells) => ((store action state).1, ((store action state).2, cells))
  | .inr cell, (state, cells) => (memory cell, (state, cells ++ [cell]))

/-- A program that only reads, among programs that also act on a store. -/
def embed (Reply : Action → Type) :
    Reading Cell Value α → Program (Action ⊕ Cell) (Answer Reply Cell Value) α
  | .done value => .done value
  | .perform cell next => .perform (.inr cell) fun reply => embed Reply (next reply)

theorem run_embed (store : Handler Action Reply σ) (program : Reading Cell Value α) (state : σ)
    (cells : List Cell) :
    (embed Reply program).run (handler memory store) (state, cells) =
      (value memory program, (state, cells ++ footprint memory program)) := by
  induction program generalizing cells with
  | done result => simp [embed]
  | perform cell next ih =>
    rw [embed, Program.run_perform, footprint, value, List.append_cons]
    exact ih _ _

end Store

end Reading

end Foundation
