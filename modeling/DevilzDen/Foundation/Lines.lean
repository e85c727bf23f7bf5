import Mathlib.Data.List.TakeWhile

/-! Texts cut at separators: terminated lines, the first field of a line, and words.

`lines` is what repeated line extraction yields: a terminator ends a line and
nothing follows the last one. `cut` is the first occurrence of a separator.
`words` are the maximal runs of elements that are not blank.
-/

set_option autoImplicit false

namespace Foundation.Lines

variable {α : Type}

section Separated

variable [DecidableEq α]

def lines (terminator : α) : List α → List (List α)
  | [] => []
  | char :: rest =>
      if char = terminator then [] :: lines terminator rest
      else match lines terminator rest with
        | [] => [[char]]
        | line :: later => (char :: line) :: later

def unlines (terminator : α) (parts : List (List α)) : List α :=
  parts.flatMap fun line => line ++ [terminator]

theorem lines_line_append {terminator : α} {line : List α} (whole : terminator ∉ line)
    (rest : List α) :
    lines terminator (line ++ terminator :: rest) = line :: lines terminator rest := by
  induction line with
  | nil => simp [lines]
  | cons char tail ih =>
    -- the head of the line cannot end it
    have ordinary : char ≠ terminator := fun same => whole (same ▸ List.mem_cons_self)
    have wholeTail : terminator ∉ tail := fun member => whole (List.mem_cons_of_mem _ member)
    simp [lines, ordinary, ih wholeTail]

theorem lines_unlines {terminator : α} {parts : List (List α)}
    (whole : ∀ line ∈ parts, terminator ∉ line) : lines terminator (unlines terminator parts) = parts := by
  induction parts with
  | nil => rfl
  | cons line later ih =>
    have tail := ih fun other member => whole other (List.mem_cons_of_mem _ member)
    simp only [unlines, List.flatMap_cons, List.append_assoc, List.singleton_append]
    rw [lines_line_append (whole line List.mem_cons_self)]
    exact congrArg (line :: ·) tail

theorem lines_append_terminator (terminator : α) (first rest : List α) : ∃ line before,
    lines terminator (first ++ terminator :: rest) = line :: (before ++ lines terminator rest) := by
  induction first with
  | nil => exact ⟨[], [], by simp [lines]⟩
  | cons char tail ih =>
    obtain ⟨line, before, ih⟩ := ih
    by_cases ends : char = terminator
    · exact ⟨[], line :: before, by simp [lines, ends, ih]⟩
    · exact ⟨char :: line, before, by simp [lines, ends, ih]⟩

theorem mem_lines_unlines {terminator : α} {line : List α} (whole : terminator ∉ line) {parts : List (List α)}
    (member : line ∈ parts) : line ∈ lines terminator (unlines terminator parts) := by
  induction parts with
  | nil => cases member
  | cons first later ih =>
    simp only [unlines, List.flatMap_cons, List.append_assoc, List.singleton_append]
    rcases List.mem_cons.mp member with rfl | member
    · rw [lines_line_append whole]
      exact List.mem_cons_self
    · obtain ⟨one, before, split⟩ := lines_append_terminator terminator first (unlines terminator later)
      rw [unlines] at split
      rw [split]
      exact List.mem_cons_of_mem _ (List.mem_append_right _ (ih member))

theorem notMem_of_mem_lines {terminator : α} {text line : List α} (member : line ∈ lines terminator text) :
    terminator ∉ line := by
  induction text generalizing line with
  | nil => cases member
  | cons char rest ih =>
    rw [lines] at member
    split at member
    · rcases List.mem_cons.mp member with rfl | later
      · exact List.not_mem_nil
      · exact ih later
    next ordinary =>
      cases found : lines terminator rest with
      | nil =>
        rw [found] at member
        cases List.mem_singleton.mp member
        exact fun ends => ordinary (List.mem_singleton.mp ends).symm
      | cons first later =>
        rw [found] at member
        rcases List.mem_cons.mp member with rfl | other
        · rw [List.mem_cons, not_or]
          exact ⟨Ne.symm ordinary, ih (found ▸ List.mem_cons_self)⟩
        · exact ih (found ▸ List.mem_cons_of_mem _ other)

theorem lines_unlines_map {β : Type} {terminator : α} {header : List α} {render : β → List α}
    {parts : List β} (wholeHeader : terminator ∉ header) (whole : ∀ part ∈ parts, terminator ∉ render part) :
    lines terminator (unlines terminator (header :: parts.map render)) = header :: parts.map render := by
  apply lines_unlines
  intro line member
  rcases List.mem_cons.mp member with rfl | member
  · exact wholeHeader
  · obtain ⟨part, listed, rfl⟩ := List.mem_map.mp member
    exact whole part listed

/-- The text before and after the first separator, if there is one. -/
def cut (separator : α) : List α → Option (List α × List α)
  | [] => none
  | char :: rest =>
      if char = separator then some ([], rest)
      else (cut separator rest).map fun parts => (char :: parts.1, parts.2)

theorem cut_append {separator : α} {field : List α} (whole : separator ∉ field) (rest : List α) :
    cut separator (field ++ separator :: rest) = some (field, rest) := by
  induction field with
  | nil => simp [cut]
  | cons char tail ih =>
    have ordinary : char ≠ separator := fun same => whole (same ▸ List.mem_cons_self)
    have wholeTail : separator ∉ tail := fun member => whole (List.mem_cons_of_mem _ member)
    simp [cut, ordinary, ih wholeTail]

theorem cut_eq_some {separator : α} {text field rest : List α} (found : cut separator text = some (field, rest)) :
    separator ∉ field ∧ text = field ++ separator :: rest := by
  induction text generalizing field with
  | nil => cases found
  | cons char tail ih =>
    rw [cut] at found
    split at found
    next same =>
      cases found
      exact ⟨List.not_mem_nil, congrArg (· :: rest) same⟩
    next ordinary =>
      obtain ⟨parts, later, same⟩ := Option.map_eq_some_iff.mp found
      cases same
      obtain ⟨whole, split⟩ := ih later
      rw [List.mem_cons, not_or]
      exact ⟨⟨Ne.symm ordinary, whole⟩, congrArg (char :: ·) split⟩

/-- A text as three fields, each up to the next separator, and all that follows the third. -/
structure Fields (separator : α) (text first second third rest : List α) : Prop where
  wholeFirst : separator ∉ first
  wholeSecond : separator ∉ second
  wholeThird : separator ∉ third
  split : text = first ++ separator :: (second ++ separator :: (third ++ separator :: rest))

theorem fields_iff {separator : α} {text first second third rest : List α} :
    Fields separator text first second third rest ↔ ∃ afterFirst afterSecond,
      cut separator text = some (first, afterFirst) ∧ cut separator afterFirst = some (second, afterSecond) ∧
        cut separator afterSecond = some (third, rest) := by
  constructor
  · intro fields
    refine ⟨_, _, ?_, cut_append fields.wholeSecond _, cut_append fields.wholeThird rest⟩
    rw [fields.split, cut_append fields.wholeFirst]
  · intro cuts
    obtain ⟨afterFirst, afterSecond, one, two, three⟩ := cuts
    obtain ⟨wholeFirst, rfl⟩ := cut_eq_some one
    obtain ⟨wholeSecond, rfl⟩ := cut_eq_some two
    obtain ⟨wholeThird, rfl⟩ := cut_eq_some three
    exact ⟨wholeFirst, wholeSecond, wholeThird, rfl⟩

/-- The first separator ends the field, whatever follows it. -/
theorem append_cons_eq_iff {separator : α} {field field' rest rest' : List α} (whole : separator ∉ field)
    (whole' : separator ∉ field') :
    field ++ separator :: rest = field' ++ separator :: rest' ↔ field = field' ∧ rest = rest' := by
  constructor
  · intro same
    have parts := congrArg (cut separator) same
    rw [cut_append whole, cut_append whole'] at parts
    exact Prod.mk.inj (Option.some.inj parts)
  · rintro ⟨rfl, rfl⟩
    rfl

theorem append_cons_eq_iff_last {separator : α} {field field' start start' : List α} (whole : separator ∉ field)
    (whole' : separator ∉ field') :
    start ++ separator :: field = start' ++ separator :: field' ↔ start = start' ∧ field = field' := by
  have turned : field.reverse ++ separator :: start.reverse = field'.reverse ++ separator :: start'.reverse ↔
      field.reverse = field'.reverse ∧ start.reverse = start'.reverse :=
    append_cons_eq_iff (fun member => whole (List.mem_reverse.mp member))
      fun member => whole' (List.mem_reverse.mp member)
  constructor
  · intro same
    have reversed := congrArg List.reverse same
    simp only [List.reverse_append, List.reverse_cons, List.append_assoc, List.singleton_append] at reversed
    obtain ⟨fields, starts⟩ := turned.mp reversed
    exact ⟨List.reverse_inj.mp starts, List.reverse_inj.mp fields⟩
  · rintro ⟨rfl, rfl⟩
    rfl

theorem Fields.unique {separator : α} {text first second third rest first' second' third' rest' : List α}
    (fields : Fields separator text first second third rest)
    (others : Fields separator text first' second' third' rest') :
    first = first' ∧ second = second' ∧ third = third' ∧ rest = rest' := by
  have same := fields.split.symm.trans others.split
  rw [append_cons_eq_iff fields.wholeFirst others.wholeFirst,
    append_cons_eq_iff fields.wholeSecond others.wholeSecond,
    append_cons_eq_iff fields.wholeThird others.wholeThird] at same
  exact same

end Separated

/-- A part that may be left out is told from what follows it when it starts differently. -/
theorem optional_append_rel {β : Type} {starts : List α → Prop} {render render' : β → List α} {alike : β → β → Prop}
    {part part' : Option β} {rest rest' : List α} (opens : ∀ value after, starts (render value ++ after))
    (opens' : ∀ value after, starts (render' value ++ after)) (other : ¬starts rest) (other' : ¬starts rest')
    (unique : ∀ value ∈ part, ∀ value' ∈ part',
      render value ++ rest = render' value' ++ rest' → alike value value' ∧ rest = rest')
    (same : part.elim [] render ++ rest = part'.elim [] render' ++ rest') :
    Option.Rel alike part part' ∧ rest = rest' := by
  cases part with
  | none =>
    cases part' with
    | none => exact ⟨.none, same⟩
    | some value =>
      have whole : rest = render' value ++ rest' := same
      exact absurd (whole ▸ opens' value rest') other
  | some value =>
    cases part' with
    | none =>
      have whole : rest' = render value ++ rest := same.symm
      exact absurd (whole ▸ opens value rest) other'
    | some value' =>
      obtain ⟨related, rests⟩ := unique value rfl value' rfl same
      exact ⟨.some related, rests⟩

theorem optional_append_inj {β : Type} {starts : List α → Prop} {render : β → List α} {part part' : Option β}
    {rest rest' : List α} (opens : ∀ value after, starts (render value ++ after)) (other : ¬starts rest)
    (other' : ¬starts rest')
    (unique : ∀ value ∈ part, ∀ value' ∈ part',
      render value ++ rest = render value' ++ rest' → value = value' ∧ rest = rest')
    (same : part.elim [] render ++ rest = part'.elim [] render ++ rest') : part = part' ∧ rest = rest' := by
  obtain ⟨related, rests⟩ := optional_append_rel opens opens other other' unique same
  cases related with
  | none => exact ⟨rfl, rests⟩
  | some equal => exact ⟨congrArg some equal, rests⟩

section Prefix

variable (condition : α → Bool) (text : List α)

theorem drop_length_takeWhile : text.drop (text.takeWhile condition).length = text.dropWhile condition := by
  have dropped : (text.takeWhile condition ++ text.dropWhile condition).drop
      (text.takeWhile condition).length = text.dropWhile condition := List.drop_left
  rwa [List.takeWhile_append_dropWhile] at dropped

theorem take_length_takeWhile : text.take (text.takeWhile condition).length = text.takeWhile condition := by
  have taken : (text.takeWhile condition ++ text.dropWhile condition).take
      (text.takeWhile condition).length = text.takeWhile condition := List.take_left
  rwa [List.takeWhile_append_dropWhile] at taken

end Prefix

section Words

variable (blank : α → Bool)

def words (text : List α) : List (List α) :=
  (text.splitOnP blank).filter fun word => !word.isEmpty

@[simp] theorem words_nil : words blank [] = [] := by simp [words, List.splitOnP_nil]

theorem words_cons_blank {char : α} (isBlank : blank char = true) (rest : List α) :
    words blank (char :: rest) = words blank rest := by
  simp [words, List.splitOnP_cons_eq_if_modifyHead, isBlank]

theorem words_dropWhile (text : List α) : words blank (text.dropWhile blank) = words blank text := by
  induction text with
  | nil => rfl
  | cons char rest ih =>
    by_cases isBlank : blank char = true
    · rw [List.dropWhile_cons_of_pos isBlank, ih, words_cons_blank blank isBlank]
    · rw [List.dropWhile_cons_of_neg isBlank]

theorem words_eq_nil {text : List α} (blanks : text.dropWhile blank = []) : words blank text = [] := by
  rw [← words_dropWhile, blanks, words_nil]

theorem words_eq_singleton {word : List α} (present : word ≠ []) (letters : ∀ char ∈ word, blank char = false) :
    words blank word = [word] := by
  rw [words, List.splitOnP_eq_singleton letters]
  simp [present]

theorem words_append_blank {word : List α} (present : word ≠ []) (letters : ∀ char ∈ word, blank char = false)
    {stop : α} (isBlank : blank stop = true) (rest : List α) :
    words blank (word ++ stop :: rest) = word :: words blank rest := by
  rw [words, List.splitOnP_append_cons_of_forall_mem letters stop isBlank]
  simp [present, words]

theorem words_intercalate {separator : α} (isBlank : blank separator = true) {parts : List (List α)}
    (present : ∀ part ∈ parts, part ≠ []) (letters : ∀ part ∈ parts, ∀ char ∈ part, blank char = false) :
    words blank (List.intercalate [separator] parts) = parts := by
  induction parts with
  | nil => exact words_nil blank
  | cons part later ih =>
    have presentHere := present part List.mem_cons_self
    have lettersHere := letters part List.mem_cons_self
    cases later with
    | nil =>
      rw [List.intercalate_singleton]
      exact words_eq_singleton blank presentHere lettersHere
    | cons next others =>
      have rest := ih (fun other member => present other (List.mem_cons_of_mem _ member))
        (fun other member => letters other (List.mem_cons_of_mem _ member))
      rw [List.intercalate_cons_cons, List.append_assoc, List.singleton_append,
        words_append_blank blank presentHere lettersHere isBlank, rest]

theorem words_of_ordinary {char : α} (ordinary : blank char = false) (rest : List α) :
    words blank (char :: rest) = (char :: rest).takeWhile (fun other => !blank other) ::
      words blank ((char :: rest).dropWhile fun other => !blank other) := by
  -- the first word is followed by the end of the text or by a blank
  have letters : ∀ other ∈ (char :: rest).takeWhile (fun other => !blank other), blank other = false :=
    fun other member => by simpa using List.mem_takeWhile_imp member
  have present : (char :: rest).takeWhile (fun other => !blank other) ≠ [] := by simp [ordinary]
  have joined := List.takeWhile_append_dropWhile (p := fun other => !blank other) (l := char :: rest)
  generalize (char :: rest).takeWhile (fun other => !blank other) = word at *
  cases after : (char :: rest).dropWhile (fun other => !blank other) with
  | nil =>
    rw [after, List.append_nil] at joined
    rw [← joined, words_eq_singleton blank present letters, words_nil]
  | cons stop tail =>
    have isBlank : blank stop = true := by
      have head := List.head_dropWhile_not (fun other => !blank other) (l := char :: rest)
      simpa [after] using head
    rw [after] at joined
    rw [← joined, words_cons_blank blank isBlank, words_append_blank blank present letters isBlank]

end Words

end Foundation.Lines
