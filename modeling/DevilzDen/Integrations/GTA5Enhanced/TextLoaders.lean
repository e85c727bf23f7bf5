import DevilzDen.Backend.Memory.PatternCacheLoads
import DevilzDen.Integrations.GTA5Enhanced.Natives.NativeBatches

/-! Which lines the two text loaders take.

Both read a number as the digits in front of its field, and neither looks at
what stands behind them in the field.
-/

set_option autoImplicit false

namespace DevilzDen.Integrations.GTA5Enhanced

open Backend Foundation
open PatternCachePersistence (mappedModule storesOf loadForModule StoreCall StoreCall.perform)

/-! ## Lines of a crossmap -/

namespace NativeCrossmap

/-- A line with an entry of a wanted build: its number fields and what they denote. -/
structure Row (expected : UInt64) (line : Text) (entry : NativeCrossmapEntry) (numbers : List (Text × Nat)) :
    Prop where
  wanted : expected = 0 ∨ entry.buildFingerprint = expected
  fields : ∃ build canonical runtime, Lines.Fields tab line build canonical runtime entry.name ∧
    numbers = [(build, entry.buildFingerprint.toNat), (canonical, entry.canonical.value.toNat),
      (runtime, entry.runtime.value.toNat)]

theorem Row.unique {expected : UInt64} {line : Text} {entry : NativeCrossmapEntry}
    {numbers others : List (Text × Nat)} (row : Row expected line entry numbers)
    (other : Row expected line entry others) : numbers = others := by
  obtain ⟨_, _, _, fields, rfl⟩ := row.fields
  obtain ⟨_, _, _, otherFields, rfl⟩ := other.fields
  obtain ⟨rfl, rfl, rfl, _⟩ := fields.unique otherFields
  rfl

theorem parseLine_eq_some_iff {expected : UInt64} {line : Text} {entry : NativeCrossmapEntry} :
    parseLine expected line = some entry ↔
      ∃ numbers, Row expected line entry numbers ∧ Numeral.LeadingNumerals 16 (2 ^ 64) numbers := by
  have read : ∀ {buildField canonicalField runtimeField : Text} {build canonical runtime : UInt64},
      Numeral.LeadingNumerals 16 (2 ^ 64) [(buildField, build.toNat), (canonicalField, canonical.toNat),
          (runtimeField, runtime.toNat)] ↔
        parseHex buildField = some build ∧ parseHex canonicalField = some canonical ∧
          parseHex runtimeField = some runtime := by
    simp [Numeral.LeadingNumerals, parseHex, fromChars64_eq_some_iff]
  simp only [parseLine, Option.bind_eq_bind, Option.bind_eq_some_iff]
  constructor
  · intro parsed
    obtain ⟨⟨_, _⟩, first, ⟨_, _⟩, second, ⟨_, _⟩, third, build, buildRead, canonical, canonicalRead,
      runtime, runtimeRead, kept⟩ := parsed
    split at kept
    · cases kept
    next wanted =>
      cases kept
      have fields := Lines.fields_iff.mpr ⟨_, _, first, second, third⟩
      rw [not_and_or, not_not, not_not] at wanted
      exact ⟨_, ⟨wanted, _, _, _, fields, rfl⟩, read.mpr ⟨buildRead, canonicalRead, runtimeRead⟩⟩
  · intro row
    obtain ⟨_, row, numbers⟩ := row
    obtain ⟨_, _, _, fields, rfl⟩ := row.fields
    obtain ⟨_, _, first, second, third⟩ := Lines.fields_iff.mp fields
    obtain ⟨buildRead, canonicalRead, runtimeRead⟩ := read.mp numbers
    have wanted : ¬(expected ≠ 0 ∧ entry.buildFingerprint ≠ expected) := by
      rw [not_and_or, not_not, not_not]
      exact row.wanted
    refine ⟨_, first, _, second, _, third, _, buildRead, _, canonicalRead, _, runtimeRead, ?_⟩
    rw [if_neg wanted]

/-- No hash is to have two counterparts in a build: not within the entries, nor
between them and the crossmap. -/
structure Collisionless (crossmap : NativeCrossmap) (entries : List NativeCrossmapEntry) : Prop where
  together : ∀ entry ∈ entries, ∀ other ∈ entries,
    entry.canonicalKey = other.canonicalKey ↔ entry.runtimeKey = other.runtimeKey
  canonical : ∀ entry ∈ entries, ∀ old, crossmap.byCanonical.lookup entry.canonicalKey = some old →
    old.runtime = entry.runtime
  runtime : ∀ entry ∈ entries, ∀ old, crossmap.byRuntime.lookup entry.runtimeKey = some old →
    old.canonical = entry.canonical

theorem Collisionless.add {crossmap : NativeCrossmap} {entry : NativeCrossmapEntry}
    {later : List NativeCrossmapEntry} (collisionless : crossmap.Collisionless (entry :: later))
    (accepts : crossmap.Accepts entry) : (crossmap.add entry).2.Collisionless later := by
  obtain ⟨_, canonicalTable, runtimeTable⟩ := add_of_accepts accepts
  have first : entry ∈ entry :: later := List.mem_cons_self
  constructor
  · intro one oneMember other otherMember
    exact collisionless.together one (List.mem_cons_of_mem _ oneMember) other (List.mem_cons_of_mem _ otherMember)
  · intro other member old found
    rw [canonicalTable, Table.lookup_insert_eq] at found
    split at found
    next same =>
      cases found
      have paired := (collisionless.together other (List.mem_cons_of_mem _ member) entry first).mp same
      exact congrArg NativeHash.mk (congrArg Key.hash paired.symm)
    · exact collisionless.canonical other (List.mem_cons_of_mem _ member) old found
  · intro other member old found
    rw [runtimeTable, Table.lookup_insert_eq] at found
    split at found
    next same =>
      cases found
      have paired := (collisionless.together other (List.mem_cons_of_mem _ member) entry first).mpr same
      exact congrArg NativeHash.mk (congrArg Key.hash paired.symm)
    · exact collisionless.runtime other (List.mem_cons_of_mem _ member) old found

def NonNull (entry : NativeCrossmapEntry) : Prop := entry.canonical.value ≠ 0 ∧ entry.runtime.value ≠ 0

/-- Where nothing collides, a batch fails at a null hash and at nothing else. -/
theorem addBatch_ok_iff {crossmap : NativeCrossmap} {entries : List NativeCrossmapEntry}
    (collisionless : crossmap.Collisionless entries) :
    (crossmap.addBatch entries).1 = .ok () ↔ ∀ entry ∈ entries, NonNull entry := by
  rw [addBatch_eq]
  induction entries generalizing crossmap with
  | nil => simp [batch]
  | cons entry later ih =>
    have accepts_iff : crossmap.Accepts entry ↔ NonNull entry := by
      constructor
      · exact fun accepts => ⟨accepts.canonical, accepts.runtime⟩
      · intro nonNull
        exact ⟨nonNull.1, nonNull.2, collisionless.canonical entry List.mem_cons_self,
          collisionless.runtime entry List.mem_cons_self⟩
    rw [List.forall_mem_cons, ← accepts_iff]
    by_cases accepts : crossmap.Accepts entry
    · rw [batch_cons_of_ok (add_ok_iff.mpr accepts), ih (collisionless.add accepts)]
      simp only [accepts, true_and]
    · cases verdict : (crossmap.add entry).1 with
      | ok => exact absurd (add_ok_iff.mp verdict) accepts
      | error error =>
        rw [batch_cons_of_error verdict]
        simp only [accepts, false_and, reduceCtorEq]

end NativeCrossmap

/-! ## Whole numbers -/

namespace TextLoaders

section Format

variable {ε : Type} (base : Nat) (row : Text → ε → List (Text × Nat) → Prop)

/-- The line gives an entry when its number fields are whole numbers, and no entry otherwise. -/
def TakesWhole (parse : Text → Option ε) (line : Text) : Prop :=
  ∀ entry, parse line = some entry ↔
    ∃ numbers, row line entry numbers ∧ Numeral.WholeNumerals base (2 ^ 64) numbers

/-- Where each number field of the line starts with the digits of a number that
the entry admits, the fields have nothing behind these digits. -/
def NothingBehind (line : Text) : Prop :=
  ∀ entry numbers, row line entry numbers → Numeral.LeadingNumerals base (2 ^ 64) numbers →
    Numeral.OnlyDigits base numbers

variable {base row}

theorem takesWhole_iff {parse : Text → Option ε} {line : Text}
    (reads : ∀ entry, parse line = some entry ↔
      ∃ numbers, row line entry numbers ∧ Numeral.LeadingNumerals base (2 ^ 64) numbers)
    (unique : ∀ entry numbers others, row line entry numbers → row line entry others → numbers = others) :
    TakesWhole base row parse line ↔ NothingBehind base row line := by
  rw [TakesWhole, NothingBehind, ← Numeral.leading_iff_whole unique]
  apply forall_congr'
  intro entry
  rw [reads entry]

variable (base row)

/-- The entries of the lines whose number fields are whole numbers, in order. -/
inductive WholeEntries : List Text → List ε → Prop where
  | nil : WholeEntries [] []
  | take {line : Text} {entry : ε} {numbers : List (Text × Nat)} {lines : List Text} {entries : List ε} :
      row line entry numbers → Numeral.WholeNumerals base (2 ^ 64) numbers → WholeEntries lines entries →
        WholeEntries (line :: lines) (entry :: entries)
  | skip {line : Text} {lines : List Text} {entries : List ε} :
      (∀ entry numbers, row line entry numbers → ¬Numeral.WholeNumerals base (2 ^ 64) numbers) →
        WholeEntries lines entries → WholeEntries (line :: lines) entries

variable {base row} {parse : Text → Option ε}

theorem takes_of_reads
    (reads : ∀ line entry, parse line = some entry ↔
      ∃ numbers, row line entry numbers ∧ Numeral.LeadingNumerals base (2 ^ 64) numbers)
    {line : Text} {entry : ε} {numbers : List (Text × Nat)} (drawn : row line entry numbers)
    (whole : Numeral.WholeNumerals base (2 ^ 64) numbers) : parse line = some entry :=
  (reads _ _).mpr ⟨_, drawn, (Numeral.wholeNumerals_iff.mp whole).1⟩

theorem WholeEntries.sublist
    (reads : ∀ line entry, parse line = some entry ↔
      ∃ numbers, row line entry numbers ∧ Numeral.LeadingNumerals base (2 ^ 64) numbers)
    {lines : List Text} {entries : List ε} (whole : WholeEntries base row lines entries) :
    entries.Sublist (lines.filterMap parse) := by
  induction whole with
  | nil => exact List.Sublist.refl _
  | take drawn numbers _ ih =>
    rw [List.filterMap_cons_some (takes_of_reads reads drawn numbers)]
    exact ih.cons_cons _
  | skip _ _ ih => exact ih.trans ((List.sublist_cons_self _ _).filterMap parse)

theorem nothingBehind_iff
    (reads : ∀ line entry, parse line = some entry ↔
      ∃ numbers, row line entry numbers ∧ Numeral.LeadingNumerals base (2 ^ 64) numbers)
    (unique : ∀ line entry numbers others, row line entry numbers → row line entry others → numbers = others)
    (lines : List Text) :
    (∀ line ∈ lines, NothingBehind base row line) ↔
      ∃ entries, WholeEntries base row lines entries ∧ entries.length = (lines.filterMap parse).length := by
  constructor
  · intro clean
    refine ⟨lines.filterMap parse, ?_, rfl⟩
    induction lines with
    | nil => exact .nil
    | cons line later ih =>
      rw [List.forall_mem_cons] at clean
      have takesWhole := (takesWhole_iff (reads line) (unique line)).mpr clean.1
      cases parsed : parse line with
      | none =>
        rw [List.filterMap_cons_none parsed]
        refine .skip (fun entry numbers drawn whole => ?_) (ih clean.2)
        rw [takes_of_reads reads drawn whole] at parsed
        cases parsed
      | some entry =>
        obtain ⟨numbers, drawn, whole⟩ := (takesWhole entry).mp parsed
        rw [List.filterMap_cons_some parsed]
        exact .take drawn whole (ih clean.2)
  · rintro ⟨entries, whole, length⟩
    induction whole with
    | nil => exact nofun
    | @take line entry numbers lines entries drawn digits _ ih =>
      have parsed := takes_of_reads reads drawn digits
      rw [List.filterMap_cons_some parsed, List.length_cons, List.length_cons] at length
      rw [List.forall_mem_cons]
      refine ⟨?_, ih (Nat.succ.inj length)⟩
      intro other others otherDrawn leading
      -- the line gives one entry, and that one has whole numbers
      have same : entry = other := Option.some.inj (parsed.symm.trans ((reads _ _).mpr ⟨_, otherDrawn, leading⟩))
      subst same
      rw [unique line entry others numbers otherDrawn drawn]
      exact (Numeral.wholeNumerals_iff.mp digits).2
    | @skip line lines entries none later ih =>
      have bounded := (later.sublist reads).length_le
      cases parsed : parse line with
      | none =>
        rw [List.filterMap_cons_none parsed] at length
        rw [List.forall_mem_cons]
        refine ⟨fun entry numbers drawn leading => ?_, ih length⟩
        rw [(reads _ _).mpr ⟨_, drawn, leading⟩] at parsed
        cases parsed
      | some entry =>
        rw [List.filterMap_cons_some parsed, List.length_cons] at length
        omega

end Format

def cacheRow (module : ModuleInfo) (line : Text) (entry : PatternCacheKey × UInt64)
    (numbers : List (Text × Nat)) : Prop :=
  PatternCachePersistence.Row module line entry.1 entry.2 numbers

def storeFor (module : ModuleInfo) (entry : PatternCacheKey × UInt64) : StoreCall :=
  ⟨entry.1, module.base + entry.2, module.base⟩

/-- The load of a crossmap succeeds, it adds one entry for each line of whole
numbers, in order, and the tables take these entries and nothing else. -/
def CrossmapTakesWhole (crossmap : NativeCrossmap) (expected : UInt64) (body : List Text)
    (loaded : Result Unit × NativeCrossmap) : Prop :=
  ∃ entries, WholeEntries 16 (NativeCrossmap.Row expected) body entries ∧ loaded.1 = .ok () ∧
    crossmap.added (body.filterMap (NativeCrossmap.parseLine expected)) = entries ∧
    crossmap.Took entries loaded.2

/-- The load of a cache counts the lines of whole numbers, and performs one store
for each, in order, and no other. -/
def CacheTakesWhole (cache : PatternCache) (module : ModuleInfo) (body : List Text)
    (loaded : Result Nat × PatternCache) : Prop :=
  ∃ entries, WholeEntries 10 (cacheRow module) body entries ∧
    loaded = (.ok entries.length, run StoreCall.perform cache (entries.map (storeFor module)))

def NoNull (expected : UInt64) (line : Text) : Prop :=
  ∀ entry numbers, NativeCrossmap.Row expected line entry numbers →
    Numeral.LeadingNumerals 16 (2 ^ 64) numbers → NativeCrossmap.NonNull entry

/-- Behind a valid header, what the two loads take is the entries of whole
numbers exactly when no line that they read has anything behind the digits of a
number field and, in a crossmap, none has a null hash. -/
theorem takes_whole_numbers_iff (crossmap : NativeCrossmap) (mapPath mapText : Text) (expected : UInt64)
    (mapBody : List Text) (mapLines : Lines.lines newline mapText = NativeCrossmap.header :: mapBody)
    (collisionless : crossmap.Collisionless (mapBody.filterMap (NativeCrossmap.parseLine expected)))
    (cache : PatternCache) (module : ModuleInfo) (cachePath cacheText : Text) (cacheBody : List Text)
    (cacheLines : Lines.lines newline cacheText = PatternCachePersistence.header :: cacheBody) :
    (CrossmapTakesWhole crossmap expected mapBody (crossmap.loadText mapPath (.ok mapText) expected) ↔
      ∀ line ∈ mapBody, NothingBehind 16 (NativeCrossmap.Row expected) line ∧ NoNull expected line) ∧
    (CacheTakesWhole cache module cacheBody
        (loadForModule (some ⟨.ok true, .ok cacheText⟩) cache module cachePath) ↔
      ∀ line ∈ cacheBody, NothingBehind 10 (cacheRow module) line) := by
  have batch : crossmap.loadText mapPath (.ok mapText) expected =
      crossmap.addBatch (mapBody.filterMap (NativeCrossmap.parseLine expected)) := by
    simp only [NativeCrossmap.loadText, mapLines]
    rfl
  have performed : loadForModule (some ⟨.ok true, .ok cacheText⟩) cache module cachePath =
      (.ok (storesOf module cacheBody).length, run StoreCall.perform cache (storesOf module cacheBody)) := by
    simp only [loadForModule, cacheLines, PatternCachePersistence.foldl_loadLine_eq, Nat.zero_add]
    rfl
  constructor
  · let parse := NativeCrossmap.parseLine expected
    have reads : ∀ line entry, parse line = some entry ↔ ∃ numbers,
        NativeCrossmap.Row expected line entry numbers ∧ Numeral.LeadingNumerals 16 (2 ^ 64) numbers :=
      fun _ _ => NativeCrossmap.parseLine_eq_some_iff
    have nonNull : (∀ entry ∈ mapBody.filterMap parse, NativeCrossmap.NonNull entry) ↔
        ∀ line ∈ mapBody, NoNull expected line := by
      simp only [List.mem_filterMap, reads, NoNull]
      constructor
      · intro all line member entry numbers drawn leading
        exact all entry ⟨line, member, numbers, drawn, leading⟩
      · intro none entry given
        obtain ⟨line, member, numbers, drawn, leading⟩ := given
        exact none line member entry numbers drawn leading
    rw [batch, forall₂_and, nothingBehind_iff reads (fun _ _ _ _ row other => row.unique other), ← nonNull,
      ← NativeCrossmap.addBatch_ok_iff collisionless]
    constructor
    · rintro ⟨entries, whole, done, added, _⟩
      rw [NativeCrossmap.added_of_done done] at added
      exact ⟨⟨entries, whole, congrArg List.length added.symm⟩, done⟩
    · rintro ⟨⟨entries, whole, length⟩, done⟩
      have given : entries = mapBody.filterMap parse :=
        (whole.sublist reads).eq_of_length length
      have added := NativeCrossmap.added_of_done done
      have took := NativeCrossmap.took_added crossmap (mapBody.filterMap parse)
      rw [added, ← given] at took
      exact ⟨entries, whole, done, added.trans given.symm, given ▸ took⟩
  · let parse := PatternCachePersistence.parseLine module
    have reads : ∀ line entry, parse line = some entry ↔ ∃ numbers,
        cacheRow module line entry numbers ∧ Numeral.LeadingNumerals 10 (2 ^ 64) numbers :=
      fun _ _ => PatternCachePersistence.parseLine_eq_some_iff
    have stores : storesOf module cacheBody = (cacheBody.filterMap parse).map (storeFor module) := by
      rw [List.map_filterMap]
      rfl
    rw [performed, stores, nothingBehind_iff reads (fun _ _ _ _ row other => row.unique other),
      List.length_map]
    constructor
    · rintro ⟨entries, whole, same⟩
      exact ⟨entries, whole, (Except.ok.inj (congrArg Prod.fst same)).symm⟩
    · rintro ⟨entries, whole, length⟩
      have given : entries = cacheBody.filterMap parse :=
        (whole.sublist reads).eq_of_length length
      exact ⟨entries, whole, by rw [given]⟩

/-- A build written as `0x1F` is taken for build zero, and an offset is taken with
a carriage return behind it. -/
theorem prefixes_are_taken :
    let mapLine := text "0x1F\tA1\tB2\tname"
    let mapped := ({} : NativeCrossmap).loadText (text "map.txt") (.ok (text "DDXMAP1\n0x1F\tA1\tB2\tname\n")) 0
    let module := mappedModule 0x8000
    let cacheLine := text "game.exe\ttarget\t4294967297\t16\r"
    let loaded := loadForModule
      (some ⟨.ok true, .ok (text "DDPC1\ngame.exe\ttarget\t4294967297\t16\r\n")⟩) {} module (text "cache.txt")
    (({} : NativeCrossmap).Collisionless ([mapLine].filterMap (NativeCrossmap.parseLine 0)) ∧
        mapped.1 = .ok () ∧ (mapped.2.toRuntime ⟨0xA1⟩ 0).1 = some ⟨0xB2⟩ ∧
        ¬CrossmapTakesWhole {} 0 [mapLine] mapped) ∧
      loaded.1 = .ok 1 ∧ (loaded.2.entries.lookup (text "game.exe::target")).map (·.address) = some 0x8010 ∧
        ¬CacheTakesWhole {} module [cacheLine] loaded := by
  intro mapLine mapped module cacheLine loaded
  have alone : [mapLine].filterMap (NativeCrossmap.parseLine 0) = [⟨⟨0xA1⟩, ⟨0xB2⟩, 0, text "name"⟩] := by
    decide
  refine ⟨⟨⟨?_, nofun, nofun⟩, by decide, by decide, fun takes => ?_⟩, by decide, by decide, fun takes => ?_⟩
  · rw [alone]
    intro entry member other otherMember
    rw [List.mem_singleton] at member otherMember
    simp [member, otherMember]
  · obtain ⟨entries, whole, _, added, _⟩ := takes
    have one : entries = [⟨⟨0xA1⟩, ⟨0xB2⟩, 0, text "name"⟩] := by
      rw [← added, alone]
      decide
    subst one
    cases whole with
    | skip _ later => cases later
    | take row whole _ =>
      obtain ⟨_, build, canonical, runtime, fields, rfl⟩ := row
      have known : Lines.Fields tab mapLine (text "0x1F") (text "A1") (text "B2") (text "name") :=
        ⟨by decide, by decide, by decide, by decide⟩
      obtain ⟨rfl, _⟩ := fields.unique known
      have digits := (whole _ List.mem_cons_self).digits 120 (by decide)
      exact absurd digits (by decide)
  · obtain ⟨entries, whole, same⟩ := takes
    have counted : entries.length = 1 := by
      have first : loaded.1 = .ok entries.length := congrArg Prod.fst same
      have ran : loaded.1 = .ok 1 := by decide
      exact Except.ok.inj (first.symm.trans ran)
    cases whole with
    | skip _ later =>
      cases later
      cases counted
    | @take _ entry _ _ _ row whole _ =>
      obtain ⟨fingerprintText, offsetText, fields, rfl⟩ := row.fields
      have known : Lines.Fields tab cacheLine (text "game.exe") (text "target") (text "4294967297")
          (text "16\r") := ⟨by decide, by decide, by decide, by decide⟩
      obtain ⟨_, _, _, rfl⟩ := fields.unique known
      have behind : 13 ∈ text "16\r" := by decide
      have digits := (whole _ (List.mem_cons_of_mem _ List.mem_cons_self)).digits 13 behind
      exact absurd digits (by decide)

theorem takes_whole_numbers_iff_files :
    let mapBody := [text "1F\tA1\tB2\tname"]
    let module := mappedModule 0x8000
    let cacheBody := [text "game.exe\ttarget\t4294967297\t16"]
    (CrossmapTakesWhole {} 0x1F mapBody
        (({} : NativeCrossmap).loadText (text "map.txt") (.ok (text "DDXMAP1\n1F\tA1\tB2\tname\n")) 0x1F) ↔
      ∀ line ∈ mapBody, NothingBehind 16 (NativeCrossmap.Row 0x1F) line ∧ NoNull 0x1F line) ∧
    (CacheTakesWhole {} module cacheBody (loadForModule
        (some ⟨.ok true, .ok (text "DDPC1\ngame.exe\ttarget\t4294967297\t16\n")⟩) {} module (text "cache.txt")) ↔
      ∀ line ∈ cacheBody, NothingBehind 10 (cacheRow module) line) := by
  intro mapBody module cacheBody
  have alone : mapBody.filterMap (NativeCrossmap.parseLine 0x1F) = [⟨⟨0xA1⟩, ⟨0xB2⟩, 0x1F, text "name"⟩] := by
    decide
  refine takes_whole_numbers_iff {} (text "map.txt") (text "DDXMAP1\n1F\tA1\tB2\tname\n") 0x1F mapBody (by decide)
    ⟨?_, nofun, nofun⟩ {} module (text "cache.txt")
    (text "DDPC1\ngame.exe\ttarget\t4294967297\t16\n") cacheBody (by decide)
  rw [alone]
  intro entry member other otherMember
  rw [List.mem_singleton] at member otherMember
  simp [member, otherMember]

end TextLoaders

end DevilzDen.Integrations.GTA5Enhanced
