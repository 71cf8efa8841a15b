import SelectionTypes.Proofs.Text.Parts
import SelectionTypes.Text.Occurrence

/-!
# `SelectionTypes.Proofs.Text.Occurrence`: where a mark comes from

`Text.occursIn` finds a mark exactly if it is inside the text (`occursIn_iff_isInfix`). A text that
is put together from others has a mark in one of them, or at a seam. A text `IsClearOf` a mark if it
brings no occurrence of it about, whatever stands in front: the mark is not inside, and the text
does not begin with an end of the mark (`isClearOf_iff`). What is put together from clear texts is
clear, and so is a text without the last character of the mark (`isClearOf_of_not_mem`).
-/

set_option autoImplicit false

namespace SelectionTypes.Text

variable {mark text other before : List Char}

/-- A mark occurs in a text exactly if it is an infix of it. -/
theorem occursIn_iff_isInfix : occursIn mark text ↔ mark <:+: text := by
  induction text with
  | nil => simp [occursIn]
  | cons c rest ih =>
    rw [occursIn, Bool.or_eq_true, ih, List.isPrefixOf_iff_prefix, List.infix_cons_iff]

/-- A mark does not occur where its first character does not. -/
theorem occursIn_eq_false {c : Char} (absent : c ∉ text) : occursIn (c :: mark) text = false :=
  Bool.eq_false_iff.mpr fun occurs =>
    absent ((occursIn_iff_isInfix.mp occurs).subset List.mem_cons_self)

/-- A text brings no occurrence of a mark about, whatever stands in front of it. -/
def IsClearOf (mark text : List Char) : Prop :=
  ∀ before, mark <:+: before ++ text → mark <:+: before

/-- A text is clear of a mark exactly if the mark is not inside and no end of it begins the text. -/
theorem isClearOf_iff (filled : mark ≠ []) :
    IsClearOf mark text ↔
      ¬ mark <:+: text ∧ ∀ back, back ≠ [] → back <:+ mark → ¬ back <+: text := by
  constructor
  · intro clear
    refine ⟨fun inside => filled (List.infix_nil.mp (clear [] inside)), ?_⟩
    rintro back more ⟨front, rfl⟩ begins
    -- With the rest of the mark in front, the mark would be there.
    have whole := clear front (List.infix_append_iff.mpr (.inr (.inr
      ⟨front, back, rfl, List.suffix_rfl, begins⟩)))
    have short := whole.length_le
    rw [List.length_append] at short
    exact more (List.length_eq_zero_iff.mp (by omega))
  · rintro ⟨free, seams⟩ before occurs
    rcases List.infix_append_iff.mp occurs with own | inside | ⟨front, back, rfl, ends, begins⟩
    · exact own
    · exact absurd inside free
    · by_cases none : back = []
      · rw [none, List.append_nil]
        exact ends.isInfix
      · exact absurd begins (seams back none (List.suffix_append front back))

namespace IsClearOf

/-- Clear texts behind each other are clear. Whatever stands in front of the first may stand in
front of both. -/
theorem append (clear : IsClearOf mark text) (also : IsClearOf mark other) :
    IsClearOf mark (text ++ other) := by
  intro before occurs
  rw [← List.append_assoc] at occurs
  exact clear before (also _ occurs)

/-- What a clear text begins with is clear. -/
theorem of_append (clear : IsClearOf mark (text ++ other)) : IsClearOf mark text := by
  intro before occurs
  refine clear before ?_
  rw [← List.append_assoc]
  exact List.infix_append_of_infix_left occurs

/-- Clear parts with a clear separator between them are clear. -/
theorem intercalate {parts : List (List Char)} (between : IsClearOf mark other)
    (each : ∀ part ∈ parts, IsClearOf mark part) : IsClearOf mark (other.intercalate parts) := by
  induction parts with
  | nil => exact fun before occurs => by simpa using occurs
  | cons part parts ih =>
    rw [List.forall_mem_cons] at each
    rcases parts with _ | ⟨next, parts⟩
    · simpa using each.1
    · rw [List.intercalate_cons_cons]
      exact (each.1.append between).append (ih each.2)

/-- The same of two texts. -/
theorem append_text {first second : String} (clear : IsClearOf mark first.toList)
    (also : IsClearOf mark second.toList) : IsClearOf mark (first ++ second).toList := by
  rw [String.toList_append]
  exact clear.append also

/-- The same of a joined text. -/
theorem intercalate_text {separator : String} {parts : List String}
    (between : IsClearOf mark separator.toList)
    (each : ∀ part ∈ parts, IsClearOf mark part.toList) :
    IsClearOf mark (separator.intercalate parts).toList := by
  rw [String.toList_intercalate]
  exact between.intercalate (List.forall_mem_map.mpr each)

end IsClearOf

/-- A text without the last character of a mark is clear of it. -/
theorem isClearOf_of_not_mem {last : Char} (ends : mark.getLast? = some last)
    (absent : last ∉ text) : IsClearOf mark text := by
  have filled : mark ≠ [] := by
    rintro rfl
    cases ends
  have inMark : ∀ back, back ≠ [] → back <:+ mark → last ∈ back := by
    rintro back more ⟨front, rfl⟩
    rw [List.getLast?_append_of_ne_nil front more] at ends
    exact List.mem_of_getLast? ends
  refine (isClearOf_iff filled).mpr ⟨fun inside => ?_, fun back more isEnd begins => ?_⟩
  · exact absent (inside.subset (inMark mark filled List.suffix_rfl))
  · exact absent (begins.subset (inMark back more isEnd))

end SelectionTypes.Text
