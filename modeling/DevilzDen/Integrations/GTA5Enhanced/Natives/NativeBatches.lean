import DevilzDen.Foundation.Batch
import DevilzDen.Integrations.GTA5Enhanced.Natives.NativeCrossmap
import DevilzDen.Integrations.GTA5Enhanced.Natives.NativeTable

/-! Batches into the crossmap and into the native table, and what a failing one leaves.

Neither store takes back what it took before the entry that failed.
-/

set_option autoImplicit false

namespace DevilzDen.Integrations.GTA5Enhanced

open Backend Foundation

namespace NativeCrossmap

theorem add_ok_iff {crossmap : NativeCrossmap} {entry : NativeCrossmapEntry} :
    (crossmap.add entry).1 = .ok () ↔ crossmap.Accepts entry := by
  refine ⟨fun done => ?_, fun accepts => (add_of_accepts accepts).1⟩
  unfold add at done
  split at done
  · exact nomatch done
  next nonzero =>
    dsimp only at done
    split at done
    · exact nomatch done
    next canonicalFree =>
      split at done
      · exact nomatch done
      next runtimeFree =>
        rw [not_or] at nonzero
        refine ⟨nonzero.1, nonzero.2, fun old found => ?_, fun old found => ?_⟩
        · simpa [found] using canonicalFree
        · simpa [found] using runtimeFree

theorem addBatch_eq (crossmap : NativeCrossmap) (entries : List NativeCrossmapEntry) :
    crossmap.addBatch entries = batch add crossmap entries := by
  induction entries generalizing crossmap with
  | nil => rfl
  | cons entry later ih =>
    simp only [addBatch, batch, ih]
    rcases crossmap.add entry with ⟨verdict, after⟩
    cases verdict <;> rfl

structure Took (before : NativeCrossmap) (made : List NativeCrossmapEntry) (after : NativeCrossmap) : Prop where
  canonical : ∀ key, after.byCanonical.lookup key =
    (made.reverse.find? fun entry => key = entry.canonicalKey).or (before.byCanonical.lookup key)
  runtime : ∀ key, after.byRuntime.lookup key =
    (made.reverse.find? fun entry => key = entry.runtimeKey).or (before.byRuntime.lookup key)

theorem not_accepts_of_error {crossmap : NativeCrossmap} {entry : NativeCrossmapEntry} {error : Error}
    (refused : (crossmap.add entry).1 = .error error) : ¬crossmap.Accepts entry := by
  intro accepts
  rw [add_ok_iff.mpr accepts] at refused
  exact nomatch refused

/-- The entries of a batch that are added: those before the first one that is not accepted. -/
def added (crossmap : NativeCrossmap) (entries : List NativeCrossmapEntry) : List NativeCrossmapEntry :=
  taken add crossmap entries

theorem took_added (crossmap : NativeCrossmap) (entries : List NativeCrossmapEntry) :
    crossmap.Took (crossmap.added entries) (crossmap.addBatch entries).2 := by
  rw [addBatch_eq]
  constructor
  · apply lookup_taken (fun (crossmap : NativeCrossmap) key => crossmap.byCanonical.lookup key)
      NativeCrossmapEntry.canonicalKey
    · intro crossmap entry accepted key
      rw [(add_of_accepts (add_ok_iff.mp accepted)).2.1, Table.lookup_insert_eq]
    · intro crossmap entry error refused key
      rw [(add_of_not_accepts (not_accepts_of_error refused)).1]
  · apply lookup_taken (fun (crossmap : NativeCrossmap) key => crossmap.byRuntime.lookup key)
      NativeCrossmapEntry.runtimeKey
    · intro crossmap entry accepted key
      rw [(add_of_accepts (add_ok_iff.mp accepted)).2.2, Table.lookup_insert_eq]
    · intro crossmap entry error refused key
      rw [(add_of_not_accepts (not_accepts_of_error refused)).2]

theorem added_of_done {crossmap : NativeCrossmap} {entries : List NativeCrossmapEntry}
    (done : (crossmap.addBatch entries).1 = .ok ()) : crossmap.added entries = entries := by
  rw [addBatch_eq] at done
  exact taken_of_done done

theorem addBatch_error {crossmap : NativeCrossmap} {entries : List NativeCrossmapEntry} {error : Error}
    (failed : (crossmap.addBatch entries).1 = .error error) :
    ∃ made rejected later, entries = made ++ rejected :: later ∧
      (crossmap.addBatch made).1 = .ok () ∧ ¬(crossmap.addBatch made).2.Accepts rejected ∧
      crossmap.Took made (crossmap.addBatch entries).2 := by
  rw [addBatch_eq] at failed
  obtain ⟨made, rejected, later, split, done, refused, _⟩ := batch_error failed
  have kept : crossmap.added entries = made := by
    rw [split]
    exact taken_append_rejected done refused
  rw [← addBatch_eq] at done refused
  refine ⟨made, rejected, later, split, done, not_accepts_of_error refused, ?_⟩
  rw [← kept]
  exact took_added crossmap entries

/-- The entries that a text holds for a build, if it has the header. -/
def parseText (expectedBuildFingerprint : UInt64) (contents : Text) : Option (List NativeCrossmapEntry) :=
  match Lines.lines newline contents with
  | [] => none
  | first :: body =>
      if first = header then some (body.filterMap (parseLine expectedBuildFingerprint)) else none

theorem loadText_eq (crossmap : NativeCrossmap) (path contents : Text) (expectedBuildFingerprint : UInt64) :
    crossmap.loadText path (.ok contents) expectedBuildFingerprint =
      match parseText expectedBuildFingerprint contents with
      | none => (.error (unsupportedFormat path), crossmap)
      | some entries => crossmap.addBatch entries := by
  cases split : Lines.lines newline contents with
  | nil => simp [loadText, parseText, split]
  | cons first body => by_cases same : first = header <;> simp [loadText, parseText, split, same]

end NativeCrossmap

namespace NativeTable

theorem registerBatch_eq (table : NativeTable) (registrations : List NativeRegistration) :
    table.registerBatch registrations = batch register table registrations := by
  induction registrations generalizing table with
  | nil => rfl
  | cons registration later ih =>
    simp only [registerBatch, batch, ih]
    rcases table.register registration with ⟨verdict, after⟩
    cases verdict <;> rfl

theorem registerBatch_error {table : NativeTable} {registrations : List NativeRegistration} {error : Error}
    (failed : (table.registerBatch registrations).1 = .error error) :
    ∃ made rejected later, registrations = made ++ rejected :: later ∧
      (table.registerBatch made).1 = .ok () ∧
      ((table.registerBatch made).2.register rejected).1 = .error error ∧
      ∀ hash, (table.registerBatch registrations).2.find hash =
        (made.reverse.find? fun registration => hash = registration.hash).or (table.find hash) := by
  rw [registerBatch_eq] at failed
  obtain ⟨made, rejected, later, split, taken, refused, final⟩ := batch_error failed
  have stores : ∀ (table : NativeTable) registration, (table.register registration).1 = .ok () →
      ∀ hash, (table.register registration).2.find hash =
        if hash = registration.hash then some registration else table.find hash := by
    intro table registration accepted hash
    rw [find_register (Prod.ext accepted rfl) hash]
    exact if_congr eq_comm rfl rfl
  have kept : (batch register table registrations).2 = (batch register table made).2 :=
    final.trans (register_error (Prod.ext refused rfl))
  refine ⟨made, rejected, later, split, ?_⟩
  rw [registerBatch_eq, registerBatch_eq, kept]
  exact ⟨taken, refused, fun hash => lookup_batch find NativeRegistration.hash stores taken hash⟩

end NativeTable

/-- Batches are not taken back: what a failure leaves is the store with the
entries before the first rejected one. Only a text that cannot be read, or that
lacks the header, leaves it as it was. -/
theorem failed_batch_keeps_accepted :
    (∀ (crossmap : NativeCrossmap) entries error, (crossmap.addBatch entries).1 = .error error →
      ∃ made rejected later, entries = made ++ rejected :: later ∧
        (crossmap.addBatch made).1 = .ok () ∧ ¬(crossmap.addBatch made).2.Accepts rejected ∧
        crossmap.Took made (crossmap.addBatch entries).2) ∧
    (∀ (crossmap : NativeCrossmap) path read expected error,
      (crossmap.loadText path read expected).1 = .error error →
      match read.toOption.bind (NativeCrossmap.parseText expected) with
      | none => (crossmap.loadText path read expected).2 = crossmap
      | some entries => ∃ made rejected later, entries = made ++ rejected :: later ∧
          (crossmap.addBatch made).1 = .ok () ∧ ¬(crossmap.addBatch made).2.Accepts rejected ∧
          crossmap.Took made (crossmap.loadText path read expected).2) ∧
    (∀ (table : NativeTable) registrations error, (table.registerBatch registrations).1 = .error error →
      ∃ made rejected later, registrations = made ++ rejected :: later ∧
        (table.registerBatch made).1 = .ok () ∧
        ((table.registerBatch made).2.register rejected).1 = .error error ∧
        ∀ hash, (table.registerBatch registrations).2.find hash =
          (made.reverse.find? fun registration => hash = registration.hash).or (table.find hash)) := by
  refine ⟨fun crossmap entries error => NativeCrossmap.addBatch_error, ?_,
    fun table registrations error => NativeTable.registerBatch_error⟩
  intro crossmap path read expected error failed
  cases read with
  | error unread => rfl
  | ok contents =>
    rw [NativeCrossmap.loadText_eq] at failed ⊢
    simp only [Except.toOption, Option.bind_some]
    cases parsed : NativeCrossmap.parseText expected contents with
    | none => rfl
    | some entries =>
      rw [parsed] at failed
      exact NativeCrossmap.addBatch_error failed

/-- An entry before a null hash, and one before a collision within the batch. -/
theorem failed_batch_not_atomic :
    let first : NativeCrossmapEntry := ⟨⟨1⟩, ⟨2⟩, 7, []⟩
    let null : NativeCrossmapEntry := ⟨⟨0⟩, ⟨5⟩, 7, []⟩
    let contents := NativeCrossmap.saveText [first, null]
    let one : NativeRegistration := { hash := ⟨1⟩, handler := 16 }
    let other : NativeRegistration := { hash := ⟨1⟩, handler := 32 }
    ((({} : NativeCrossmap).addBatch [first, null]).1.isOk = false ∧
      (({} : NativeCrossmap).addBatch [first, null]).2.byCanonical.lookup first.canonicalKey = some first ∧
      ({} : NativeCrossmap).byCanonical.lookup first.canonicalKey = none) ∧
    ((({} : NativeCrossmap).loadText [] (.ok contents) 7).1.isOk = false ∧
      (({} : NativeCrossmap).loadText [] (.ok contents) 7).2.byCanonical.lookup first.canonicalKey =
        some first) ∧
    (({} : NativeTable).registerBatch [one, other]).1.isOk = false ∧
      (({} : NativeTable).registerBatch [one, other]).2.find ⟨1⟩ = some one ∧
      ({} : NativeTable).find ⟨1⟩ = none := by
  decide

end DevilzDen.Integrations.GTA5Enhanced
