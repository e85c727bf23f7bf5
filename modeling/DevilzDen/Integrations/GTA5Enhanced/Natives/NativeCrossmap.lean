import DevilzDen.Backend.Error
import DevilzDen.Foundation.Lines
import DevilzDen.Foundation.Run
import DevilzDen.Foundation.TwoWayTable
import DevilzDen.Integrations.GTA5Enhanced.Natives.NativeHash

/-! The crossmap between canonical and runtime hashes, for each build.

The class keeps two hash tables of the same entries. Every method holds the
crossmap's lock for its whole body, so a method call is one step. File access
enters as its outcome: `loadText` takes what `ReadText` returned, and
`saveText` gives what `WriteText` is asked to write.
-/

set_option autoImplicit false

namespace DevilzDen.Integrations.GTA5Enhanced

open Backend Foundation

structure NativeCrossmapEntry where
  canonical : NativeHash
  runtime : NativeHash
  buildFingerprint : UInt64 := 0
  name : Text
  deriving DecidableEq, Repr

structure NativeCrossmapStats where
  entries : Nat := 0
  translated : Nat := 0
  misses : Nat := 0
  collisions : Nat := 0
  deriving DecidableEq, Repr

namespace NativeCrossmap

structure Key where
  hash : UInt64
  build : UInt64
  deriving DecidableEq, Repr

end NativeCrossmap

structure NativeCrossmap where
  byCanonical : Table NativeCrossmap.Key NativeCrossmapEntry := ∅
  byRuntime : Table NativeCrossmap.Key NativeCrossmapEntry := ∅
  stats : NativeCrossmapStats := {}

def NativeCrossmapEntry.canonicalKey (entry : NativeCrossmapEntry) : NativeCrossmap.Key :=
  ⟨entry.canonical.value, entry.buildFingerprint⟩

def NativeCrossmapEntry.runtimeKey (entry : NativeCrossmapEntry) : NativeCrossmap.Key :=
  ⟨entry.runtime.value, entry.buildFingerprint⟩

namespace NativeCrossmap

def collided (crossmap : NativeCrossmap) : NativeCrossmap :=
  { crossmap with stats.collisions := crossmap.stats.collisions + 1 }

def add (crossmap : NativeCrossmap) (entry : NativeCrossmapEntry) : Result Unit × NativeCrossmap :=
  if entry.canonical.value = 0 ∨ entry.runtime.value = 0 then
    (.error ((Error.runtime "Crossmap entry contains a null native hash").withContext "Name" entry.name),
      crossmap)
  else
    let existingCanonical := crossmap.byCanonical.lookup entry.canonicalKey
    let existingRuntime := crossmap.byRuntime.lookup entry.runtimeKey
    -- the same pair may be added again; another counterpart for either hash is a collision
    if existingCanonical.any fun existing => existing.runtime ≠ entry.runtime then
      (.error ((Error.runtime "Crossmap canonical hash collision").withContext "Name" entry.name),
        crossmap.collided)
    else if existingRuntime.any fun existing => existing.canonical ≠ entry.canonical then
      (.error ((Error.runtime "Crossmap runtime hash collision").withContext "Name" entry.name),
        crossmap.collided)
    else
      let byCanonical := crossmap.byCanonical.insert entry.canonicalKey entry
      let byRuntime := crossmap.byRuntime.insert entry.runtimeKey entry
      (.ok (), { byCanonical, byRuntime, stats := { crossmap.stats with entries := Table.size byCanonical } })

/-- Entries are added until one is rejected; those before it stay. -/
def addBatch : NativeCrossmap → List NativeCrossmapEntry → Result Unit × NativeCrossmap
  | crossmap, [] => (.ok (), crossmap)
  | crossmap, entry :: later =>
      match crossmap.add entry with
      | (.error error, rejected) => (.error error, rejected)
      | (.ok _, added) => addBatch added later

def counted {α : Type} (crossmap : NativeCrossmap) : Option α → NativeCrossmap
  | none => { crossmap with stats.misses := crossmap.stats.misses + 1 }
  | some _ => { crossmap with stats.translated := crossmap.stats.translated + 1 }

def toRuntime (crossmap : NativeCrossmap) (canonical : NativeHash) (buildFingerprint : UInt64) :
    Option NativeHash × NativeCrossmap :=
  let found := crossmap.byCanonical.lookup ⟨canonical.value, buildFingerprint⟩
  (found.map (·.runtime), crossmap.counted found)

def toCanonical (crossmap : NativeCrossmap) (runtime : NativeHash) (buildFingerprint : UInt64) :
    Option NativeHash × NativeCrossmap :=
  let found := crossmap.byRuntime.lookup ⟨runtime.value, buildFingerprint⟩
  (found.map (·.canonical), crossmap.counted found)

def containsCanonical (crossmap : NativeCrossmap) (canonical : NativeHash) (buildFingerprint : UInt64) : Bool :=
  (crossmap.byCanonical.lookup ⟨canonical.value, buildFingerprint⟩).isSome

def containsRuntime (crossmap : NativeCrossmap) (runtime : NativeHash) (buildFingerprint : UInt64) : Bool :=
  (crossmap.byRuntime.lookup ⟨runtime.value, buildFingerprint⟩).isSome

/-- The entries in some order of the hash table. -/
def Snapshot (crossmap : NativeCrossmap) (order : List NativeCrossmapEntry) : Prop :=
  crossmap.byCanonical.Enumerates order

def header : Text := text "DDXMAP1"

def hex (value : UInt64) : Text := Numeral.render 16 value.toNat

def entryLine (entry : NativeCrossmapEntry) : Text :=
  hex entry.buildFingerprint ++ tab :: (hex entry.canonical.value ++ tab ::
    (hex entry.runtime.value ++ tab :: entry.name))

def saveText (order : List NativeCrossmapEntry) : Text :=
  Lines.unlines newline (header :: order.map entryLine)

def parseHex (field : Text) : Option UInt64 := fromChars64 16 field

/-- A line that does not parse, or is of another build, is skipped. -/
def parseLine (expectedBuildFingerprint : UInt64) (line : Text) : Option NativeCrossmapEntry := do
  let (buildField, afterBuild) ← Lines.cut tab line
  let (canonicalField, afterCanonical) ← Lines.cut tab afterBuild
  let (runtimeField, name) ← Lines.cut tab afterCanonical
  let build ← parseHex buildField
  let canonical ← parseHex canonicalField
  let runtime ← parseHex runtimeField
  if expectedBuildFingerprint ≠ 0 ∧ build ≠ expectedBuildFingerprint then none
  else some ⟨⟨canonical⟩, ⟨runtime⟩, build, name⟩

def unsupportedFormat (path : Text) : Error :=
  let error : Error := ⟨.fileReadFailed, .filesystem, text "Unsupported native crossmap format", none, []⟩
  error.withContext "Path" path

def loadText (crossmap : NativeCrossmap) (path : Text) (read : Result Text)
    (expectedBuildFingerprint : UInt64) : Result Unit × NativeCrossmap :=
  match read with
  | .error error => (.error error, crossmap)
  | .ok contents =>
      match Lines.lines newline contents with
      | [] => (.error (unsupportedFormat path), crossmap)
      | first :: body =>
          if first ≠ header then (.error (unsupportedFormat path), crossmap)
          else crossmap.addBatch (body.filterMap (parseLine expectedBuildFingerprint))

def invalidateBuild (crossmap : NativeCrossmap) (buildFingerprint : UInt64) : NativeCrossmap :=
  let byCanonical := crossmap.byCanonical.eraseIf fun key _ => key.build == buildFingerprint
  let byRuntime := crossmap.byRuntime.eraseIf fun key _ => key.build == buildFingerprint
  { byCanonical, byRuntime, stats := { crossmap.stats with entries := Table.size byCanonical } }

def clear (_crossmap : NativeCrossmap) : NativeCrossmap := {}

def statistics (crossmap : NativeCrossmap) : NativeCrossmapStats :=
  { crossmap.stats with entries := crossmap.byCanonical.size }

/-! ## The two tables are inverse indexes of one set of entries -/

structure Bijective (crossmap : NativeCrossmap) : Prop where
  inverse : TwoWay NativeCrossmapEntry.canonicalKey NativeCrossmapEntry.runtimeKey
    crossmap.byCanonical crossmap.byRuntime
  nonzero : ∀ key entry, crossmap.byCanonical.lookup key = some entry →
    entry.canonical.value ≠ 0 ∧ entry.runtime.value ≠ 0

/-- What `Add` asks of an entry before it stores it. -/
structure Accepts (crossmap : NativeCrossmap) (entry : NativeCrossmapEntry) : Prop where
  canonical : entry.canonical.value ≠ 0
  runtime : entry.runtime.value ≠ 0
  canonicalFree : ∀ old, crossmap.byCanonical.lookup entry.canonicalKey = some old →
    old.runtime = entry.runtime
  runtimeFree : ∀ old, crossmap.byRuntime.lookup entry.runtimeKey = some old →
    old.canonical = entry.canonical

theorem add_of_accepts {crossmap : NativeCrossmap} {entry : NativeCrossmapEntry}
    (accepts : crossmap.Accepts entry) :
    (crossmap.add entry).1 = .ok () ∧
      (crossmap.add entry).2.byCanonical = crossmap.byCanonical.insert entry.canonicalKey entry ∧
      (crossmap.add entry).2.byRuntime = crossmap.byRuntime.insert entry.runtimeKey entry := by
  have nonzero : ¬(entry.canonical.value = 0 ∨ entry.runtime.value = 0) := by
    simp [accepts.canonical, accepts.runtime]
  have canonicalFree : ¬(crossmap.byCanonical.lookup entry.canonicalKey).any
      fun existing => existing.runtime ≠ entry.runtime := by
    cases found : crossmap.byCanonical.lookup entry.canonicalKey with
    | none => exact Bool.false_ne_true
    | some old => simp [accepts.canonicalFree old found]
  have runtimeFree : ¬(crossmap.byRuntime.lookup entry.runtimeKey).any
      fun existing => existing.canonical ≠ entry.canonical := by
    cases found : crossmap.byRuntime.lookup entry.runtimeKey with
    | none => exact Bool.false_ne_true
    | some old => simp [accepts.runtimeFree old found]
  rw [add, if_neg nonzero]
  dsimp only
  rw [if_neg canonicalFree, if_neg runtimeFree]
  exact ⟨rfl, rfl, rfl⟩

theorem add_of_not_accepts {crossmap : NativeCrossmap} {entry : NativeCrossmapEntry}
    (rejects : ¬crossmap.Accepts entry) :
    (crossmap.add entry).2.byCanonical = crossmap.byCanonical ∧
      (crossmap.add entry).2.byRuntime = crossmap.byRuntime := by
  unfold add
  split
  · exact ⟨rfl, rfl⟩
  next nonzero =>
    dsimp only
    split
    · exact ⟨rfl, rfl⟩
    next canonicalFree =>
      split
      · exact ⟨rfl, rfl⟩
      next runtimeFree =>
        rw [not_or] at nonzero
        refine absurd ⟨nonzero.1, nonzero.2, fun old found => ?_, fun old found => ?_⟩ rejects
        · simpa [found] using canonicalFree
        · simpa [found] using runtimeFree

namespace Bijective

variable {crossmap : NativeCrossmap}

theorem empty : Bijective {} := ⟨TwoWay.empty, nofun⟩

theorem add (bijective : crossmap.Bijective) (entry : NativeCrossmapEntry) :
    (crossmap.add entry).2.Bijective := by
  by_cases accepts : crossmap.Accepts entry
  · obtain ⟨_, canonicalTable, runtimeTable⟩ := add_of_accepts accepts
    constructor
    · rw [canonicalTable, runtimeTable]
      refine bijective.inverse.insert (fun old found => ?_) (fun old found => ?_)
      -- an entry found under this key belongs to the same build
      · have build : old.buildFingerprint = entry.buildFingerprint :=
          (congrArg Key.build (bijective.inverse.leftKeyed _ _ found)).symm
        rw [NativeCrossmapEntry.runtimeKey, accepts.canonicalFree old found, build]
        rfl
      · have build : old.buildFingerprint = entry.buildFingerprint :=
          (congrArg Key.build (bijective.inverse.rightKeyed _ _ found)).symm
        rw [NativeCrossmapEntry.canonicalKey, accepts.runtimeFree old found, build]
        rfl
    · intro key other found
      rw [canonicalTable, Table.lookup_insert_eq] at found
      split at found
      · rw [← Option.some.inj found]
        exact ⟨accepts.canonical, accepts.runtime⟩
      · exact bijective.nonzero key other found
  · obtain ⟨canonicalTable, runtimeTable⟩ := add_of_not_accepts accepts
    constructor
    · rw [canonicalTable, runtimeTable]
      exact bijective.inverse
    · rw [canonicalTable]
      exact bijective.nonzero

theorem addBatch (bijective : crossmap.Bijective) (entries : List NativeCrossmapEntry) :
    (crossmap.addBatch entries).2.Bijective := by
  induction entries generalizing crossmap with
  | nil => exact bijective
  | cons entry later ih =>
    have added := bijective.add entry
    unfold NativeCrossmap.addBatch
    split
    next rejected same =>
      rw [same] at added
      exact added
    next accepted same =>
      rw [same] at added
      exact ih added

theorem loadText (bijective : crossmap.Bijective) (path : Text) (read : Result Text)
    (expectedBuildFingerprint : UInt64) :
    (crossmap.loadText path read expectedBuildFingerprint).2.Bijective := by
  unfold NativeCrossmap.loadText
  split
  · exact bijective
  · split
    · exact bijective
    · split
      · exact bijective
      · exact bijective.addBatch _

theorem invalidateBuild (bijective : crossmap.Bijective) (buildFingerprint : UInt64) :
    (crossmap.invalidateBuild buildFingerprint).Bijective where
  inverse :=
    let selected := fun key : Key => key.build == buildFingerprint
    bijective.inverse.eraseIf selected selected fun _ => rfl
  nonzero key entry found := by
    rw [NativeCrossmap.invalidateBuild, Table.lookup_eraseIf, Option.filter_eq_some_iff] at found
    exact bijective.nonzero key entry found.1

theorem counted {α : Type} (bijective : crossmap.Bijective) (found : Option α) :
    (crossmap.counted found).Bijective := by
  cases found <;> exact ⟨bijective.inverse, bijective.nonzero⟩

end Bijective

/-! ## The entries of one build -/

structure OfBuild (crossmap : NativeCrossmap) (fingerprint : UInt64) : Prop where
  canonical : ∀ key entry, crossmap.byCanonical.lookup key = some entry → entry.buildFingerprint = fingerprint
  runtime : ∀ key entry, crossmap.byRuntime.lookup key = some entry → entry.buildFingerprint = fingerprint

theorem parseLine_build {expected : UInt64} (checked : expected ≠ 0) {line : Text} {entry : NativeCrossmapEntry}
    (parsed : parseLine expected line = some entry) : entry.buildFingerprint = expected := by
  simp only [parseLine, Option.bind_eq_bind, Option.bind_eq_some_iff] at parsed
  obtain ⟨_, _, _, _, _, _, build, _, _, _, _, _, kept⟩ := parsed
  split at kept
  · cases kept
  next same =>
    cases kept
    by_contra other
    exact same ⟨checked, other⟩

namespace OfBuild

variable {crossmap : NativeCrossmap} {fingerprint : UInt64}

theorem empty (fingerprint : UInt64) : OfBuild {} fingerprint := ⟨nofun, nofun⟩

theorem add (ofBuild : crossmap.OfBuild fingerprint) {entry : NativeCrossmapEntry}
    (same : entry.buildFingerprint = fingerprint) : (crossmap.add entry).2.OfBuild fingerprint := by
  by_cases accepts : crossmap.Accepts entry
  · obtain ⟨_, canonicalTable, runtimeTable⟩ := add_of_accepts accepts
    constructor
    · intro key other found
      rw [canonicalTable, Table.lookup_insert_eq] at found
      split at found
      · rwa [← Option.some.inj found]
      · exact ofBuild.canonical key other found
    · intro key other found
      rw [runtimeTable, Table.lookup_insert_eq] at found
      split at found
      · rwa [← Option.some.inj found]
      · exact ofBuild.runtime key other found
  · obtain ⟨canonicalTable, runtimeTable⟩ := add_of_not_accepts accepts
    exact ⟨canonicalTable ▸ ofBuild.canonical, runtimeTable ▸ ofBuild.runtime⟩

theorem addBatch (ofBuild : crossmap.OfBuild fingerprint) {entries : List NativeCrossmapEntry}
    (same : ∀ entry ∈ entries, entry.buildFingerprint = fingerprint) :
    (crossmap.addBatch entries).2.OfBuild fingerprint := by
  induction entries generalizing crossmap with
  | nil => exact ofBuild
  | cons entry later ih =>
    rw [List.forall_mem_cons] at same
    have added := ofBuild.add same.1
    unfold NativeCrossmap.addBatch
    split
    next rejected outcome =>
      rw [outcome] at added
      exact added
    next accepted outcome =>
      rw [outcome] at added
      exact ih added same.2

theorem loadText (ofBuild : crossmap.OfBuild fingerprint) (checked : fingerprint ≠ 0) (path : Text)
    (read : Result Text) : (crossmap.loadText path read fingerprint).2.OfBuild fingerprint := by
  unfold NativeCrossmap.loadText
  split
  · exact ofBuild
  · split
    · exact ofBuild
    · split
      · exact ofBuild
      · apply ofBuild.addBatch
        intro entry member
        obtain ⟨line, _, parsed⟩ := List.mem_filterMap.mp member
        exact parseLine_build checked parsed

end OfBuild

inductive Call where
  | add (entry : NativeCrossmapEntry)
  | addBatch (entries : List NativeCrossmapEntry)
  | loadText (path : Text) (read : Result Text) (expectedBuildFingerprint : UInt64)
  | invalidateBuild (buildFingerprint : UInt64)
  | clear
  | toRuntime (canonical : NativeHash) (buildFingerprint : UInt64)
  | toCanonical (runtime : NativeHash) (buildFingerprint : UInt64)

def step (crossmap : NativeCrossmap) : Call → NativeCrossmap
  | .add entry => (crossmap.add entry).2
  | .addBatch entries => (crossmap.addBatch entries).2
  | .loadText path read expectedBuildFingerprint =>
      (crossmap.loadText path read expectedBuildFingerprint).2
  | .invalidateBuild buildFingerprint => crossmap.invalidateBuild buildFingerprint
  | .clear => crossmap.clear
  | .toRuntime canonical buildFingerprint => (crossmap.toRuntime canonical buildFingerprint).2
  | .toCanonical runtime buildFingerprint => (crossmap.toCanonical runtime buildFingerprint).2

def after (calls : List Call) : NativeCrossmap := run step {} calls

theorem Bijective.step {crossmap : NativeCrossmap} (bijective : crossmap.Bijective) (call : Call) :
    (crossmap.step call).Bijective := by
  cases call with
  | add entry => exact bijective.add entry
  | addBatch entries => exact bijective.addBatch entries
  | loadText path read expectedBuildFingerprint => exact bijective.loadText path read _
  | invalidateBuild buildFingerprint => exact bijective.invalidateBuild buildFingerprint
  | clear => exact Bijective.empty
  | toRuntime | toCanonical => exact bijective.counted _

theorem Bijective.after (calls : List Call) : (after calls).Bijective :=
  run_invariant (fun _ call bijective => bijective.step call) Bijective.empty calls

namespace Bijective

variable {crossmap : NativeCrossmap}

theorem toRuntime_eq_some (bijective : crossmap.Bijective) {canonical runtime : NativeHash} {build : UInt64} :
    (crossmap.toRuntime canonical build).1 = some runtime ↔
      ∃ name, crossmap.byCanonical.lookup ⟨canonical.value, build⟩ = some ⟨canonical, runtime, build, name⟩ := by
  simp only [toRuntime, Option.map_eq_some_iff]
  constructor
  · rintro ⟨entry, found, rfl⟩
    have key := bijective.inverse.leftKeyed _ _ found
    obtain ⟨⟨value⟩, runtime, entryBuild, name⟩ := entry
    obtain ⟨canonical⟩ := canonical
    cases key
    exact ⟨name, found⟩
  · rintro ⟨name, found⟩
    exact ⟨_, found, rfl⟩

theorem toCanonical_eq_some (bijective : crossmap.Bijective) {canonical runtime : NativeHash} {build : UInt64} :
    (crossmap.toCanonical runtime build).1 = some canonical ↔
      ∃ name, crossmap.byRuntime.lookup ⟨runtime.value, build⟩ = some ⟨canonical, runtime, build, name⟩ := by
  simp only [toCanonical, Option.map_eq_some_iff]
  constructor
  · rintro ⟨entry, found, rfl⟩
    have key := bijective.inverse.rightKeyed _ _ found
    obtain ⟨canonical, ⟨value⟩, entryBuild, name⟩ := entry
    obtain ⟨runtime⟩ := runtime
    cases key
    exact ⟨name, found⟩
  · rintro ⟨name, found⟩
    exact ⟨_, found, rfl⟩

theorem toRuntime_iff_toCanonical (bijective : crossmap.Bijective) (canonical runtime : NativeHash)
    (build : UInt64) :
    (crossmap.toRuntime canonical build).1 = some runtime ↔
      (crossmap.toCanonical runtime build).1 = some canonical := by
  rw [bijective.toRuntime_eq_some, bijective.toCanonical_eq_some]
  exact exists_congr fun name => bijective.inverse.same ⟨canonical, runtime, build, name⟩

theorem containsCanonical_iff (bijective : crossmap.Bijective) (canonical : NativeHash) (build : UInt64) :
    crossmap.containsCanonical canonical build = true ↔
      ∃ runtime, (crossmap.toRuntime canonical build).1 = some runtime ∧
        (crossmap.toCanonical runtime build).1 = some canonical ∧ crossmap.containsRuntime runtime build = true := by
  rw [containsCanonical, Option.isSome_iff_exists]
  constructor
  · rintro ⟨entry, found⟩
    have translated : (crossmap.toRuntime canonical build).1 = some entry.runtime := by simp [toRuntime, found]
    have back := (bijective.toRuntime_iff_toCanonical _ _ _).mp translated
    obtain ⟨name, there⟩ := bijective.toCanonical_eq_some.mp back
    exact ⟨entry.runtime, translated, back, by simp [containsRuntime, there]⟩
  · rintro ⟨runtime, translated, -⟩
    obtain ⟨name, found⟩ := bijective.toRuntime_eq_some.mp translated
    exact ⟨_, found⟩

end Bijective

/-- In every state that calls can reach, the crossmap is a bijection for each
build, and both tables hold the entries that the statistics count. -/
theorem bijection_per_build (calls : List Call) :
    let crossmap := after calls
    (∀ (build : UInt64) (canonical runtime : NativeHash),
      (crossmap.toRuntime canonical build).1 = some runtime ↔
        (crossmap.toCanonical runtime build).1 = some canonical) ∧
      (∀ (build : UInt64) (first second runtime : NativeHash),
        (crossmap.toRuntime first build).1 = some runtime →
          (crossmap.toRuntime second build).1 = some runtime → first = second) ∧
      (∀ (build : UInt64) (first second canonical : NativeHash),
        (crossmap.toCanonical first build).1 = some canonical →
          (crossmap.toCanonical second build).1 = some canonical → first = second) ∧
      crossmap.byCanonical.values.Perm crossmap.byRuntime.values ∧
      crossmap.statistics.entries = crossmap.byCanonical.values.length ∧
      crossmap.statistics.entries = crossmap.byRuntime.values.length := by
  intro crossmap
  have bijective := Bijective.after calls
  have exchange := bijective.toRuntime_iff_toCanonical
  have sameEntries := bijective.inverse.values_perm
  have counted : crossmap.statistics.entries = crossmap.byCanonical.values.length :=
    (Table.length_values _).symm
  refine ⟨fun build canonical runtime => exchange canonical runtime build, ?_, ?_, sameEntries,
    counted, counted.trans sameEntries.length_eq⟩
  · intro build first second runtime atFirst atSecond
    rw [exchange] at atFirst atSecond
    exact Option.some.inj (atFirst.symm.trans atSecond)
  · intro build first second canonical atFirst atSecond
    rw [← exchange] at atFirst atSecond
    exact Option.some.inj (atFirst.symm.trans atSecond)

end NativeCrossmap

end DevilzDen.Integrations.GTA5Enhanced
