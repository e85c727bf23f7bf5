import DevilzDen.Backend.Process.HostProcess
import DevilzDen.Foundation.Loop

/-! The loop of a read from the own process, turn by turn.

`VirtualQuery` may answer each turn as it likes. A turn puts out the chunk that
it copies and the region it was told of.
-/

set_option autoImplicit false

namespace DevilzDen.Backend.ProcessMemoryReader

open Foundation

structure Chunk where
  turn : Nat
  first : Address
  size : Nat
  region : MemoryBasicInformation

def localTurn (host : HostProcess) (query : Nat → VirtualQuery) (address : Address) (size : Nat) (turn : Nat)
    (copied : List UInt8) : Option (Result (Chunk × List UInt8)) :=
  if copied.length ≥ size then none
  else
    let currentAddress := address + UInt64.ofNat copied.length
    match query turn currentAddress with
    | none =>
        some (.error ((Error.fromWin32 .runtimeFailure .runtime host.lastError
          "Unable to query local memory range").withContext "Address" (decimal currentAddress.toNat)))
    | some region =>
        if region.state ≠ Win32.memCommit ∨ Win32.hasAny region.protect Win32.pageGuard ∨
            Win32.hasAny region.protect Win32.pageNoAccess then
          some (.error ((Error.runtime "Requested local memory range is not readable").withContext
            "Address" (decimal currentAddress.toNat)))
        else
          let regionEnd := region.baseAddress + region.regionSize
          if currentAddress < region.baseAddress ∨ currentAddress ≥ regionEnd then
            some (.error (Error.runtime "Local memory query returned an invalid region"))
          else
            let chunk := min (size - copied.length) (regionEnd - currentAddress).toNat
            some (.ok (⟨turn, currentAddress, chunk, region⟩, copied ++ host.memory.read currentAddress chunk))

/-- A chunk inside the region of the answer, which is committed and neither guarded nor closed. -/
structure Chunk.Safe (query : Nat → VirtualQuery) (chunk : Chunk) : Prop where
  reported : query chunk.turn chunk.first = some chunk.region
  committed : chunk.region.state = Win32.memCommit
  unguarded : Win32.hasAny chunk.region.protect Win32.pageGuard = false
  accessible : Win32.hasAny chunk.region.protect Win32.pageNoAccess = false
  after : chunk.region.baseAddress.toNat ≤ chunk.first.toNat
  before : chunk.first.toNat + chunk.size ≤ chunk.region.baseAddress.toNat + chunk.region.regionSize.toNat

section Turns

variable {host : HostProcess} {query : Nat → VirtualQuery} {address : Address} {size turn : Nat}
  {copied after : List UInt8} {chunk : Chunk}

theorem localTurn_eq_ok (passes : localTurn host query address size turn copied = some (.ok (chunk, after))) :
    copied.length < size ∧ chunk.Safe query ∧ 0 < chunk.size ∧ copied.length + chunk.size ≤ size ∧
      after = copied ++ host.memory.read (address + UInt64.ofNat copied.length) chunk.size := by
  unfold localTurn at passes
  split at passes
  · cases passes
  next short =>
    dsimp only at passes
    split at passes
    · cases passes
    next region found =>
      split at passes
      · cases passes
      next opened =>
        split at passes
        · cases passes
        next inside =>
          cases passes
          simp only [not_or, not_not, Bool.not_eq_true] at opened
          obtain ⟨committed, unguarded, accessible⟩ := opened
          simp only [not_or, not_lt, ge_iff_le, not_le, UInt64.le_iff_toNat_le, UInt64.lt_iff_toNat_lt] at inside
          obtain ⟨above, below⟩ := inside
          -- a region whose end wraps around covers no address
          have upper : (region.baseAddress + region.regionSize).toNat =
              region.baseAddress.toNat + region.regionSize.toNat := by
            have small := region.regionSize.toNat_lt
            have low := region.baseAddress.toNat_lt
            have wrapped := UInt64.toNat_add region.baseAddress region.regionSize
            omega
          have rest : (region.baseAddress + region.regionSize - (address + UInt64.ofNat copied.length)).toNat =
              region.baseAddress.toNat + region.regionSize.toNat -
                (address + UInt64.ofNat copied.length).toNat := by
            rw [UInt64.toNat_sub_of_le _ _ (UInt64.le_iff_toNat_le.mpr (Nat.le_of_lt below)), upper]
          rw [upper] at below
          refine ⟨by omega, ⟨found, committed, unguarded, accessible, above, ?_⟩, ?_, ?_, rfl⟩
          all_goals simp only [rest]
          all_goals omega

theorem localTurn_eq_none_iff : localTurn host query address size turn copied = none ↔ size ≤ copied.length := by
  constructor
  · intro leaves
    by_contra short
    rw [localTurn, if_neg short] at leaves
    dsimp only at leaves
    split at leaves
    · cases leaves
    · split at leaves
      · cases leaves
      · split at leaves <;> cases leaves
  · intro complete
    rw [localTurn, if_pos complete]

theorem localTurn_decreases (passes : localTurn host query address size turn copied = some (.ok (chunk, after))) :
    size - after.length < size - copied.length := by
  obtain ⟨short, _, positive, _, rfl⟩ := localTurn_eq_ok passes
  rw [List.length_append, Memory.length_read]
  omega

/-- What is copied is a prefix of the bytes at the address. -/
def Copies (host : HostProcess) (address : Address) (size : Nat) (copied : List UInt8) : Prop :=
  copied.length ≤ size ∧ copied = host.memory.read address copied.length

theorem Copies.next (copies : Copies host address size copied)
    (passes : localTurn host query address size turn copied = some (.ok (chunk, after))) :
    Copies host address size after := by
  obtain ⟨_, _, _, within, rfl⟩ := localTurn_eq_ok passes
  rw [Copies, List.length_append, Memory.length_read]
  refine ⟨within, ?_⟩
  rw [Memory.read_add, ← copies.2]

theorem eq_read_of_loop {turns : Nat} {chunks : List Chunk} {bytes : List UInt8}
    (loop : Loop (localTurn host query address size) turn [] turns chunks (.ok bytes)) :
    bytes = host.memory.read address size := by
  obtain ⟨copies, number, leaves⟩ :=
    loop.invariant (fun _ _ _ _ copies passes => Copies.next copies passes) ⟨Nat.zero_le _, rfl⟩ rfl
  obtain ⟨within, prefixed⟩ := copies
  rwa [Nat.le_antisymm within (localTurn_eq_none_iff.mp leaves)] at prefixed

theorem readLocalMemory_succ (fuel : Nat) (same : query turn = host.regions) :
    readLocalMemory host address size (fuel + 1) copied =
      match localTurn host query address size turn copied with
      | none => .ok copied
      | some (.error error) => .error error
      | some (.ok (_, after)) => readLocalMemory host address size fuel after := by
  rw [readLocalMemory, localTurn, same]
  split
  · rfl
  · dsimp only
    cases host.regions (address + UInt64.ofNat copied.length) with
    | none => rfl
    | some region =>
      dsimp only
      split
      · rfl
      · split <;> rfl

/-- Where the answers do not change, the loop is the one of the reader, whose fuel lasts. -/
theorem readLocalMemory_of_loop {turns fuel : Nat} {chunks : List Chunk} {outcome : Result (List UInt8)}
    (same : ∀ turn, query turn = host.regions)
    (loop : Loop (localTurn host query address size) turn copied turns chunks outcome)
    (enough : size ≤ copied.length + fuel) : readLocalMemory host address size fuel copied = outcome := by
  induction loop generalizing fuel with
  | complete leaves => exact readLocalMemory_complete (localTurn_eq_none_iff.mp leaves)
  | @failed number state error fails =>
    have short : state.length < size := by
      by_contra complete
      rw [localTurn_eq_none_iff.mpr (by omega)] at fails
      cases fails
    obtain ⟨fuel, rfl⟩ := Nat.exists_eq_succ_of_ne_zero (by omega : fuel ≠ 0)
    rw [readLocalMemory_succ fuel (same number), fails]
  | @next number turns state after chunk chunks outcome passes rest ih =>
    obtain ⟨short, _, positive, _, grown⟩ := localTurn_eq_ok passes
    obtain ⟨fuel, rfl⟩ := Nat.exists_eq_succ_of_ne_zero (by omega : fuel ≠ 0)
    rw [readLocalMemory_succ fuel (same number), passes]
    apply ih
    rw [grown, List.length_append, Memory.length_read]
    omega

end Turns

theorem read_whole_or_failure (host : HostProcess) (pid : UInt32) (address : Address) (size : Nat) :
    (∃ error, read host pid address size = .error error) ∨
      ∃ bytes, read host pid address size = .ok bytes ∧ bytes.length = size := by
  cases outcome : read host pid address size with
  | error error => exact Or.inl ⟨error, rfl⟩
  | ok bytes => exact Or.inr ⟨bytes, rfl, length_of_read outcome⟩

/-- Whatever `VirtualQuery` answers, the loop has one run, and ends within one turn for
each byte. It leaves with the bytes at the address, and copies from open regions only.
With the answers of the process it is the loop of the reader, which passes its failures on. -/
theorem localReads_safe (host : HostProcess) (query : Nat → VirtualQuery) (address : Address) (size : Nat) :
    ∃ turns chunks outcome, Loop (localTurn host query address size) 0 [] turns chunks outcome ∧
      (∀ turns' chunks' outcome', Loop (localTurn host query address size) 0 [] turns' chunks' outcome' →
        turns' = turns ∧ chunks' = chunks ∧ outcome' = outcome) ∧
      turns ≤ size ∧
      (∀ bytes, outcome = .ok bytes → bytes.length = size ∧
        ∀ k < size, bytes[k]? = some (host.memory (address + UInt64.ofNat k))) ∧
      (∀ chunk ∈ chunks, chunk.Safe query) ∧
      ((∀ turn, query turn = host.regions) → host.processId ≠ 0 → address ≠ 0 → size ≠ 0 →
        read host host.processId address size = outcome) ∧
      ∀ pid, (∃ error, read host pid address size = .error error) ∨
        ∃ bytes, read host pid address size = .ok bytes ∧ bytes.length = size := by
  have ends : ∃ turns chunks outcome, Loop (localTurn host query address size) 0 [] turns chunks outcome ∧
      turns ≤ size - ([] : List UInt8).length := by
    apply Loop.exists_of_decreasing fun copied : List UInt8 => size - copied.length
    · intro turn copied active
      have short := mt localTurn_eq_none_iff.mpr active
      omega
    · intro turn copied chunk after passes
      exact localTurn_decreases passes
  obtain ⟨turns, chunks, outcome, loop, within⟩ := ends
  refine ⟨turns, chunks, outcome, loop, fun _ _ _ other => loop.unique other, within, ?_, ?_, ?_,
    fun pid => read_whole_or_failure host pid address size⟩
  · intro bytes ended
    rw [ended] at loop
    have whole := eq_read_of_loop loop
    rw [whole, Memory.length_read]
    refine ⟨rfl, fun k below => ?_⟩
    simp [Memory.read, below]
  · exact loop.forall_outs fun _ _ _ _ passes => (localTurn_eq_ok passes).2.1
  · intro same identified present nonempty
    unfold read readInto
    have valid : ¬(host.processId = 0 ∨ address = 0 ∨ size = 0) := by
      simp [identified, present, nonempty]
    rw [if_neg nonempty, if_neg valid, if_pos rfl]
    exact readLocalMemory_of_loop same loop (by simp)

def twoPages : HostProcess where
  processId := 1
  lastError := 0
  executablePath := none
  executableName := []
  architecture := .x64
  memory := fun address => address.toUInt8
  regions := fun address =>
    if 0x1000 ≤ address ∧ address < 0x1004 then some ⟨0x1000, 4, Win32.memCommit, Win32.pageReadOnly, 0⟩
    else if 0x1004 ≤ address ∧ address < 0x1008 then some ⟨0x1004, 4, Win32.memCommit, Win32.pageReadWrite, 0⟩
    else none
  imageModule := 0
  moduleHandle := fun _ => 0
  moduleInformation := fun _ => none
  moduleSnapshot := fun _ => .unlisted
  openProcess := fun _ => none
  openFile := fun _ => none

theorem localReads_safe_twoPages : ∃ turns chunks outcome,
    Loop (localTurn twoPages (fun _ => twoPages.regions) 0x1002 5) 0 [] turns chunks outcome ∧ turns ≤ 5 ∧
      read twoPages 1 0x1002 5 = outcome := by
  obtain ⟨turns, chunks, outcome, loop, _, within, _, _, same, _⟩ :=
    localReads_safe twoPages (fun _ => twoPages.regions) 0x1002 5
  exact ⟨turns, chunks, outcome, loop, within, same (fun _ => rfl) (by decide) (by decide) (by decide)⟩

end DevilzDen.Backend.ProcessMemoryReader
