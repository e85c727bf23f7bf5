import DevilzDen.Integrations.GTA5Enhanced.Natives.NativeCrossmap

/-! Saving a crossmap as text and loading it again.

Each line inverts on its own, for any name without a line feed. That the whole
text loads without a collision rests on the bijection: no two entries of a
snapshot share a key of either table.
-/

set_option autoImplicit false

namespace DevilzDen.Integrations.GTA5Enhanced.NativeCrossmap

open Backend Foundation

section Line

theorem notMem_hex {char : UInt8} (other : Numeral.isDigit 16 char = false) (value : UInt64) :
    char ∉ hex value := Numeral.notMem_render (by decide) (by decide) other _

theorem parseHex_hex (value : UInt64) : parseHex (hex value) = some value :=
  fromChars64_render (by decide) (by decide) value

theorem parseLine_entryLine (expected : UInt64) (entry : NativeCrossmapEntry) :
    parseLine expected (entryLine entry) =
      Option.guard (fun entry => expected = 0 ∨ entry.buildFingerprint = expected) entry := by
  have tabEnds : ∀ value rest, Lines.cut tab (hex value ++ tab :: rest) = some (hex value, rest) :=
    fun value rest => Lines.cut_append (notMem_hex (by decide) value) rest
  simp only [parseLine, entryLine, tabEnds, parseHex_hex, Option.bind_eq_bind, Option.bind_some,
    Option.guard]
  by_cases wanted : expected = 0 ∨ entry.buildFingerprint = expected
  · rw [if_neg (fun both => wanted.elim both.1 both.2), if_pos (by simpa using wanted)]
  · rw [if_pos (not_or.mp wanted), if_neg (by simpa using wanted)]

theorem newline_notMem_entryLine {entry : NativeCrossmapEntry} (plain : newline ∉ entry.name) :
    newline ∉ entryLine entry := by
  have digits : ∀ value, newline ∉ hex value := notMem_hex (by decide)
  have separator : newline ≠ tab := by decide
  simp [entryLine, digits, separator, plain]

theorem lines_saveText {order : List NativeCrossmapEntry} (plain : ∀ entry ∈ order, newline ∉ entry.name) :
    Lines.lines newline (saveText order) = header :: order.map entryLine :=
  Lines.lines_unlines_map (by decide) fun entry member => newline_notMem_entryLine (plain entry member)

theorem filterMap_parseLine (expected : UInt64) (order : List NativeCrossmapEntry) :
    (order.map entryLine).filterMap (parseLine expected) =
      order.filter fun entry => expected = 0 ∨ entry.buildFingerprint = expected := by
  rw [List.filterMap_map, ← List.filterMap_eq_filter]
  exact List.filterMap_congr fun entry _ => parseLine_entryLine expected entry

end Line

/-- Entries without null hashes whose keys are free and pairwise distinct are all
added, and nothing else changes. -/
theorem addBatch_fresh {crossmap : NativeCrossmap} {entries : List NativeCrossmapEntry}
    (nonzero : ∀ entry ∈ entries, entry.canonical.value ≠ 0 ∧ entry.runtime.value ≠ 0)
    (canonicalDistinct : (entries.map (·.canonicalKey)).Nodup)
    (runtimeDistinct : (entries.map (·.runtimeKey)).Nodup)
    (canonicalFree : ∀ entry ∈ entries, crossmap.byCanonical.lookup entry.canonicalKey = none)
    (runtimeFree : ∀ entry ∈ entries, crossmap.byRuntime.lookup entry.runtimeKey = none) :
    (crossmap.addBatch entries).1 = .ok () ∧
      (crossmap.addBatch entries).2.byCanonical.values.Perm (entries ++ crossmap.byCanonical.values) := by
  induction entries generalizing crossmap with
  | nil => exact ⟨rfl, List.Perm.refl _⟩
  | cons entry later ih =>
    rw [List.map_cons, List.nodup_cons] at canonicalDistinct runtimeDistinct
    have free := canonicalFree entry List.mem_cons_self
    have accepts : crossmap.Accepts entry := {
      canonical := (nonzero entry List.mem_cons_self).1
      runtime := (nonzero entry List.mem_cons_self).2
      canonicalFree old found := by rw [free] at found; cases found
      runtimeFree old found := by rw [runtimeFree entry List.mem_cons_self] at found; cases found }
    obtain ⟨accepted, canonicalTable, runtimeTable⟩ := add_of_accepts accepts
    have canonicalLater : ∀ other ∈ later,
        (crossmap.add entry).2.byCanonical.lookup other.canonicalKey = none := by
      intro other member
      rw [canonicalTable, Table.lookup_insert_eq, if_neg]
      · exact canonicalFree other (List.mem_cons_of_mem _ member)
      · exact fun same => canonicalDistinct.1 (List.mem_map.mpr ⟨other, member, same⟩)
    have runtimeLater : ∀ other ∈ later,
        (crossmap.add entry).2.byRuntime.lookup other.runtimeKey = none := by
      intro other member
      rw [runtimeTable, Table.lookup_insert_eq, if_neg]
      · exact runtimeFree other (List.mem_cons_of_mem _ member)
      · exact fun same => runtimeDistinct.1 (List.mem_map.mpr ⟨other, member, same⟩)
    obtain ⟨succeeds, values⟩ := ih (fun other member => nonzero other (List.mem_cons_of_mem _ member))
      canonicalDistinct.2 runtimeDistinct.2 canonicalLater runtimeLater
    have continues : crossmap.addBatch (entry :: later) = (crossmap.add entry).2.addBatch later := by
      rw [addBatch, ← Prod.eta (crossmap.add entry), accepted]
    rw [continues]
    refine ⟨succeeds, values.trans ?_⟩
    rw [canonicalTable, Table.values_insert_of_absent free]
    exact List.perm_middle

/-- Loading a saved crossmap restores its entries, all of them or those of the
expected build, whatever order the snapshot had. -/
theorem loadText_saveText (calls : List Call) (order : List NativeCrossmapEntry)
    (path : Text) (expected : UInt64) (shown : (after calls).Snapshot order)
    (plain : ∀ entry ∈ order, newline ∉ entry.name) :
    let loaded := ({} : NativeCrossmap).loadText path (.ok (saveText order)) expected
    let wanted := order.filter fun entry => expected = 0 ∨ entry.buildFingerprint = expected
    loaded.1 = .ok () ∧ (∀ reloaded, loaded.2.Snapshot reloaded ↔ reloaded.Perm wanted) ∧
      loaded.2.byRuntime.values.Perm wanted := by
  intro loaded wanted
  have bijective := Bijective.after calls
  have kept : wanted.Sublist order := List.filter_sublist
  have reads : loaded = ({} : NativeCrossmap).addBatch wanted := by
    simp only [loaded, loadText, lines_saveText plain, filterMap_parseLine]
    rfl
  have nonzero : ∀ entry ∈ wanted, entry.canonical.value ≠ 0 ∧ entry.runtime.value ≠ 0 := by
    intro entry member
    obtain ⟨key, found⟩ := Table.mem_values_iff.mp (shown.mem_iff.mp (kept.subset member))
    exact bijective.nonzero key entry found
  have canonicalDistinct : (wanted.map (·.canonicalKey)).Nodup :=
    (bijective.inverse.leftKeys_nodup shown).sublist (kept.map _)
  have runtimeDistinct : (wanted.map (·.runtimeKey)).Nodup :=
    (bijective.inverse.rightKeys_nodup shown).sublist (kept.map _)
  have free : ∀ entry ∈ wanted, ({} : NativeCrossmap).byCanonical.lookup entry.canonicalKey = none :=
    fun _ _ => rfl
  obtain ⟨succeeds, appended⟩ := addBatch_fresh nonzero canonicalDistinct runtimeDistinct free
    fun _ _ => rfl
  rw [← reads] at succeeds appended
  have values : loaded.2.byCanonical.values.Perm wanted := by simpa using appended
  have loadedInverse := (Bijective.empty.loadText path (.ok (saveText order)) expected).inverse
  refine ⟨succeeds, fun reloaded => ?_, loadedInverse.values_perm.symm.trans values⟩
  exact ⟨fun again => again.trans values, fun again => again.trans values.symm⟩

/-- A name with tabs in it, in a crossmap of two builds, restored for one of them. -/
theorem loadText_saveText_twoBuilds :
    let kept : NativeCrossmapEntry := ⟨⟨0xA1⟩, ⟨0xB2⟩, 7, [tab, 65, tab]⟩
    let other : NativeCrossmapEntry := ⟨⟨0xA1⟩, ⟨0xC3⟩, 8, []⟩
    let loaded := ({} : NativeCrossmap).loadText (text "map.txt") (.ok (saveText [other, kept])) 7
    loaded.1 = .ok () ∧ (∀ reloaded, loaded.2.Snapshot reloaded ↔ reloaded.Perm [kept]) ∧
      loaded.2.byRuntime.values.Perm [kept] := by
  intro kept other
  exact loadText_saveText [.addBatch [kept, other]] [other, kept] (text "map.txt") 7 (List.Perm.refl _)
    (by decide)

end DevilzDen.Integrations.GTA5Enhanced.NativeCrossmap
