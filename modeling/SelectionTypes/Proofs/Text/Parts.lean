import Mathlib.Data.List.Infix
import SelectionTypes.Text.Parts

/-!
# `SelectionTypes.Proofs.Text.Parts`: parts and texts

The parts of a text are those of `List.splitOn` (`partsBetween_eq_splitOn`). They are made of its
characters (`mem_of_mem_partsBetween`), and a text that is written from parts without the separator
has these parts and no others (`partsBetween_intercalate`). It begins with the first part and ends
in the last one (`prefix_intercalate`, `suffix_intercalate`).
-/

set_option autoImplicit false

namespace SelectionTypes

namespace Text

/-- The parts are made of characters of the text. -/
theorem mem_of_mem_partsBetween {separator c : Char} {text part : List Char}
    (isPart : part ∈ partsBetween separator text) (inside : c ∈ part) : c ∈ text := by
  -- Along the cutting, where each character opens a part, goes into the first part, or separates.
  fun_induction partsBetween separator text generalizing part with
  | case1 => exact List.mem_singleton.mp isPart ▸ inside
  | case2 first rest same ih =>
    rcases List.mem_cons.mp isPart with rfl | isPart
    · cases inside
    · exact List.mem_cons_of_mem first (ih isPart inside)
  | case3 first rest different none ih =>
    rw [List.mem_singleton.mp isPart, List.mem_singleton] at inside
    exact inside ▸ List.mem_cons_self
  | case4 first rest different own parts split ih =>
    rw [split] at ih
    rcases List.mem_cons.mp isPart with rfl | isPart
    · rcases List.mem_cons.mp inside with rfl | inside
      · exact List.mem_cons_self
      · exact List.mem_cons_of_mem first (ih List.mem_cons_self inside)
    · exact List.mem_cons_of_mem first (ih (List.mem_cons_of_mem own isPart) inside)

/-- What holds in a separator and in all parts holds in a text that is written from them. -/
theorem forall_intercalate {P : Char → Prop} {separator : List Char} {parts : List (List Char)}
    (between : ∀ c ∈ separator, P c) (each : ∀ part ∈ parts, ∀ c ∈ part, P c) :
    ∀ c ∈ separator.intercalate parts, P c := by
  induction parts with
  | nil => exact List.forall_mem_nil _
  | cons part parts ih =>
    rw [List.forall_mem_cons] at each
    rcases parts with _ | ⟨next, parts⟩
    · simpa using each.1
    · rw [List.intercalate_cons_cons, List.forall_mem_append, List.forall_mem_append]
      exact ⟨⟨each.1, between⟩, ih each.2⟩

/-- A text that is written from parts ends in the last one. -/
theorem suffix_intercalate (separator last : List Char) (front : List (List Char)) :
    last <:+ separator.intercalate (front ++ [last]) := by
  induction front with
  | nil => simp
  | cons part front ih =>
    rw [List.cons_append, List.intercalate_cons_of_ne_nil (by simp)]
    exact List.suffix_append_of_suffix ih

/-- A text without separators is at the end of one with separators exactly if it is at the end of
the last part. -/
theorem suffix_intercalate_iff {separator : Char} {text : List Char} (apart : separator ∉ text)
    (front : List (List Char)) (last : List Char) :
    text <:+ [separator].intercalate (front ++ [last]) ↔ text <:+ last := by
  refine ⟨fun ends => ?_, fun ends => ends.trans (suffix_intercalate _ last front)⟩
  induction front with
  | nil => simpa using ends
  | cons part front ih =>
    rw [List.cons_append, List.intercalate_cons_of_ne_nil (by simp), List.append_assoc,
      List.singleton_append] at ends
    -- The text is inside what stands behind the first part, or it reaches over the separator.
    rcases List.suffix_or_suffix_of_suffix ends (List.suffix_append part _) with inside | around
    · rcases List.suffix_cons_iff.mp inside with same | inner
      · exact absurd (same ▸ List.mem_cons_self) apart
      · exact ih inner
    · exact absurd (around.subset List.mem_cons_self) apart

/-- The parts of a text are those of the library. -/
theorem partsBetween_eq_splitOn (separator : Char) (text : List Char) :
    partsBetween separator text = text.splitOn separator := by
  unfold List.splitOn
  induction text with
  | nil => rfl
  | cons first rest ih =>
    rw [List.splitOnP_cons_eq_if_modifyHead, partsBetween, ih]
    split
    · rfl
    · obtain ⟨part, parts, split⟩ :=
        List.exists_cons_of_ne_nil (List.splitOnP_ne_nil (· == separator) rest)
      rw [split, List.modifyHead_cons]

/-- Any text has a part, if only an empty one. -/
theorem partsBetween_ne_nil (separator : Char) (text : List Char) :
    partsBetween separator text ≠ [] := by
  rw [partsBetween_eq_splitOn]
  exact List.splitOnP_ne_nil _ text

/-- A character that is no separator begins the first part. -/
theorem exists_partsBetween_cons {separator c : Char} (text : List Char) (other : c ≠ separator) :
    ∃ part parts, partsBetween separator (c :: text) = (c :: part) :: parts := by
  rw [partsBetween, if_neg (mt beq_iff_eq.mp other)]
  obtain ⟨part, parts, split⟩ :=
    List.exists_cons_of_ne_nil (partsBetween_ne_nil separator text)
  exact ⟨part, parts, by rw [split]⟩

/-- A text that is written from parts without separators has these parts. -/
theorem partsBetween_intercalate {separator : Char} {parts : List (List Char)}
    (apart : ∀ part ∈ parts, separator ∉ part) (filled : parts ≠ []) :
    partsBetween separator ([separator].intercalate parts) = parts := by
  rw [partsBetween_eq_splitOn, List.splitOn_intercalate separator apart filled]

end Text

/-! ### Texts with separators -/

/-- A text with separators begins with its first part. -/
theorem prefix_intercalate (separator first : String) (behind : List String) :
    first.toList <+: (separator.intercalate (first :: behind)).toList := by
  rcases behind with _ | ⟨next, behind⟩
  · rw [String.intercalate_singleton]
  · rw [String.intercalate_cons_cons, String.append_assoc, String.toList_append]
    exact List.prefix_append _ _

/-- A text with separators ends in its last part. -/
theorem suffix_intercalate (separator last : String) (front : List String) :
    last.toList <:+ (separator.intercalate (front ++ [last])).toList := by
  rw [String.toList_intercalate, List.map_append, List.map_singleton]
  exact Text.suffix_intercalate _ _ _

/-- A text with separators has each of its blocks inside. -/
theorem infix_intercalate (separator : String) {block : String} {blocks : List String}
    (listed : block ∈ blocks) : block.toList <:+: (separator.intercalate blocks).toList := by
  obtain ⟨front, behind, rfl⟩ := List.append_of_mem listed
  have begins := (prefix_intercalate separator block behind).isInfix
  rcases front with _ | ⟨first, front⟩
  · exact begins
  · rw [String.intercalate_append_of_ne_nil (List.cons_ne_nil first front)
      (List.cons_ne_nil block behind), String.toList_append]
    exact begins.trans (List.suffix_append _ _).isInfix

/-- A text with separators begins as its first part does. -/
theorem head?_intercalate (separator : String) {first : String} (behind : List String)
    (filled : first ≠ "") :
    (separator.intercalate (first :: behind)).toList.head? = first.toList.head? := by
  obtain ⟨rest, text⟩ := prefix_intercalate separator first behind
  rw [← text, List.head?_append_of_ne_nil _ (mt String.toList_eq_nil_iff.mp filled)]

/-- Two texts that are equal and have the same parts in front go on in the same way. -/
theorem append_eq_of_intercalate {separator first second : String}
    {front behind behind' : List String}
    (same : separator.intercalate (front ++ first :: behind) =
      separator.intercalate (front ++ second :: behind')) :
    ∃ rest rest', first.toList ++ rest = second.toList ++ rest' := by
  obtain ⟨rest, text⟩ := prefix_intercalate separator first behind
  obtain ⟨rest', text'⟩ := prefix_intercalate separator second behind'
  refine ⟨rest, rest', ?_⟩
  rw [text, text', String.toList_inj]
  rcases front with _ | ⟨part, front⟩
  · exact same
  · rw [String.intercalate_append_of_ne_nil (List.cons_ne_nil part front) (List.cons_ne_nil _ _),
      String.intercalate_append_of_ne_nil (List.cons_ne_nil part front) (List.cons_ne_nil _ _)]
      at same
    exact (String.append_right_inj _).mp same

end SelectionTypes
