import SelectionTypes.Proofs.Schema.WrittenFields
import SelectionTypes.TypeScript.Nullability

/-!
# `SelectionTypes.Proofs.TypeScript.Nullability`: what list and null marks are written as

The program writes the mark ` | null` behind every name and every list, and takes it away again
below a non-null mark. It finds the mark by its text, while the base may be any text, so that it may
end in such a mark itself. The two readings agree nevertheless:

* `wrap_in_one_pass`: on proper type references `wrap` is `directWrap`, which never takes a mark
  away. What a non-null mark takes away is the mark that was put there last, so what is written
  around a base does not depend on the base.
* `wrap_eq_iff_marks`: two type references are written alike around a base exactly if they have the
  same marks in the same order.

A type reference is proper if no non-null mark stands directly around another one, as the grammar
has it. The second statement rests on three facts about what is written: a list ends in another
character than the mark (`addNull_ne_listText`), and both a list and the mark make a text longer
(`ne_listText`, `ne_addNull`), while the base is a part of it (`length_le_directWrap`).
-/

set_option autoImplicit false

namespace SelectionTypes

open ExportedAlias (fieldType?)

namespace TypeRef

/-- Whether no non-null mark stands directly around another one. -/
def isProper : TypeRef → Bool
  | named _ => true
  | list of => of.isProper
  | nonNull of => !of.isNonNull && of.isProper

/-- What a type reference puts around a name. -/
inductive Mark where
  | list
  | nonNull
  deriving Repr, DecidableEq

/-- The marks of a type reference, the outermost first. -/
def marks : TypeRef → List Mark
  | named _ => []
  | list of => .list :: of.marks
  | nonNull of => .nonNull :: of.marks

/-- A list is proper if its items are. -/
@[simp]
theorem isProper_list {of : TypeRef} : (list of).isProper = of.isProper :=
  rfl

/-- A non-null mark is proper around what is proper and has none of its own. -/
theorem isProper_nonNull {of : TypeRef} :
    (nonNull of).isProper = true ↔ of.isNonNull = false ∧ of.isProper = true := by
  simp [isProper]

end TypeRef

namespace TypeScript

variable {immutable nullable : Bool} {base text other : String} {type of first second : TypeRef}

/-! ### Marks and lists as texts -/

/-- The mark of a null type is taken away as it was added. -/
@[simp]
theorem clearNull_addNull : clearNull (addNull text) = text := by
  have toList : (addNull text).toList = text.toList ++ nullMark.toList := String.toList_append
  unfold clearNull
  rw [toList, if_pos (List.isSuffixOf_iff_suffix.mpr (List.suffix_append _ _))]
  simp

/-- So texts that are equal with the mark are equal without it. -/
theorem addNull_inj : addNull text = addNull other ↔ text = other := by
  refine ⟨fun same => ?_, fun same => same ▸ rfl⟩
  rw [← @clearNull_addNull text, same, clearNull_addNull]

/-- The text of a list has the text of its items between the name and a closing bracket. -/
theorem toList_listText :
    (listText immutable text).toList =
      (listName immutable).toList ++ '<' :: text.toList ++ ['>'] := by
  simp [listText, String.toList_append]

/-- Two lists of one spelling have one text only if their items do. -/
theorem listText_inj : listText immutable text = listText immutable other ↔ text = other := by
  rw [← String.toList_inj, toList_listText, toList_listText]
  simp [String.toList_inj]

/-- A text with the mark is no list, since they end in different characters. -/
theorem addNull_ne_listText : addNull text ≠ listText immutable other := by
  intro same
  have lists := congrArg String.toList same
  rw [addNull, String.toList_append, toList_listText] at lists
  have last := congrArg List.getLast? lists
  rw [List.getLast?_concat, List.getLast?_append,
    show nullMark.toList.getLast? = some 'l' by decide] at last
  cases last

/-- The mark makes a text longer. -/
theorem ne_addNull (longer : base.length ≤ text.length) : base ≠ addNull text := by
  rintro rfl
  rw [addNull, String.length_append, show nullMark.length = 7 by decide] at longer
  omega

/-- A list is longer than what it holds. -/
theorem ne_listText (longer : base.length ≤ text.length) : base ≠ listText immutable text := by
  rintro rfl
  rw [listText, String.length_append, String.length_append, String.length_append,
    show ">".length = 1 by decide] at longer
  omega

/-! ### Reading in one pass -/

/-- The mark stands behind what is written without it, unless the type is non-null. -/
theorem directWrap_true :
    directWrap immutable base true type =
      if type.isNonNull then directWrap immutable base false type
      else addNull (directWrap immutable base false type) := by
  cases type <;> rfl

/-- Both readings agree. By induction the text below a non-null mark ends in the mark that was put
there last, whatever the base ends in. -/
theorem wrap_eq_directWrap (proper : type.isProper) :
    wrap immutable base type = directWrap immutable base true type := by
  induction type with
  | named name => rfl
  | list of ih =>
    rw [wrap, ih proper]
    rfl
  | nonNull of ih =>
    obtain ⟨plain, proper⟩ := TypeRef.isProper_nonNull.mp proper
    rw [wrap, ih proper, directWrap_true, plain, if_neg Bool.false_ne_true, clearNull_addNull]
    rfl

/-- What is written around a base does not depend on the base. -/
theorem exists_around (immutable nullable : Bool) (type : TypeRef) :
    ∃ before after : String, ∀ base,
      directWrap immutable base nullable type = before ++ base ++ after := by
  -- On the type, with the mark left open: inside of a list it is set, and a non-null mark takes it
  -- away.
  induction type generalizing nullable with
  | named name =>
    cases nullable with
    | false => exact ⟨"", "", fun base => by simp [directWrap]⟩
    | true => exact ⟨"", nullMark, fun base => by simp [directWrap, addNull]⟩
  | list of ih =>
    obtain ⟨before, after, around⟩ := ih true
    cases nullable with
    | false =>
      exact ⟨listName immutable ++ "<" ++ before, after ++ ">", fun base => by
        simp [directWrap, listText, around, String.append_assoc]⟩
    | true =>
      exact ⟨listName immutable ++ "<" ++ before, after ++ ">" ++ nullMark, fun base => by
        simp [directWrap, listText, addNull, around, String.append_assoc]⟩
  | nonNull of ih => exact ih false

/-- A proper type reference is written as it is read in one pass, around any base. A non-null mark
takes away the mark that its type was given, so no part of the base is lost. The type that a
document writes for a field and the one that the field has in the schema are written alike. -/
theorem wrap_in_one_pass (proper : type.isProper) (immutable : Bool) :
    (∀ base, wrap immutable base type = directWrap immutable base true type) ∧
    (∀ of, type = .nonNull of → ∀ base,
      wrap immutable base of = addNull (wrap immutable base type)) ∧
    (∃ before after, ∀ base, wrap immutable base type = before ++ base ++ after) ∧
    ∀ (document : Document) (schema : Schema) (owner field : String),
      document.toSchema = .ok schema → Schema.builtIn? owner = none →
      fieldType? schema owner field = some type →
        (∃ written, document.Writes owner field written) ∧
        ∀ written, document.Writes owner field written → ∀ base,
          wrap immutable base written = wrap immutable base type := by
  refine ⟨fun base => wrap_eq_directWrap proper, ?_, ?_, ?_⟩
  · rintro of rfl base
    -- Within a proper reference the type under a non-null mark has none itself, so it was given a
    -- null mark.
    obtain ⟨plain, inner⟩ := TypeRef.isProper_nonNull.mp proper
    rw [wrap_eq_directWrap proper, wrap_eq_directWrap inner, directWrap_true, plain]
    rfl
  · obtain ⟨before, after, around⟩ := exists_around immutable true type
    exact ⟨before, after, fun base => (wrap_eq_directWrap proper).trans (around base)⟩
  · intro document schema owner field built own known
    refine ⟨⟨type, (Document.writes_iff_of_toSchema built own known).mpr rfl⟩, ?_⟩
    intro written writes base
    rw [(Document.writes_iff_of_toSchema built own known).mp writes]

/-- Required rows of numbers. -/
def rowsType : TypeRef :=
  .nonNull (.list (.nonNull (.list (.named "Int"))))

/-- Definitions of a query and of rows that an extension adds to it. -/
def rowsDefinitions : Document :=
  ⟨[.type ⟨none, "Query", [], .object [] [⟨none, "a", [], .named "Int", []⟩]⟩,
    .typeExtension ⟨none, "Query", [], .object [] [⟨none, "rows", [], rowsType, []⟩]⟩]⟩

/-- The schema of these definitions. -/
def rowsSchema : Schema where
  description := none
  roots := [(.query, "Query")]
  types := rowsDefinitions.definedTypes
    ++ ["String", "Int", "Boolean"].map Schema.builtInScalar ++ Schema.introspectionTypes
  directives := Schema.standardDirectives

/-- The rows around a base that ends in a mark, in the schema and in the extension. -/
theorem wrap_rows :
    rowsType.isProper ∧ rowsDefinitions.toSchema = .ok rowsSchema ∧
    fieldType? rowsSchema "Query" "rows" = some rowsType ∧
    wrap true "A | null" rowsType = "ReadonlyArray<ReadonlyArray<A | null | null>>" ∧
    ∃ written, rowsDefinitions.Writes "Query" "rows" written ∧
      wrap true "A | null" written = wrap true "A | null" rowsType := by
  have proper : rowsType.isProper := rfl
  have built : rowsDefinitions.toSchema = .ok rowsSchema := rfl
  have known : fieldType? rowsSchema "Query" "rows" = some rowsType := rfl
  obtain ⟨onePass, -, -, alike⟩ := wrap_in_one_pass proper true
  obtain ⟨⟨written, writes⟩, same⟩ := alike _ _ _ _ built rfl known
  exact ⟨proper, built, known, (onePass "A | null").trans (by decide),
    written, writes, same written writes "A | null"⟩

/-! ### Reading the marks back -/

/-- The base is a part of what is written around it. -/
theorem length_le_directWrap : base.length ≤ (directWrap immutable base nullable type).length := by
  obtain ⟨before, after, around⟩ := exists_around immutable nullable type
  rw [around, String.length_append, String.length_append]
  omega

/-- What is written without the mark is the base or a list, and neither is a text that holds the
base and ends in the mark. -/
theorem directWrap_false_ne_addNull (first second : TypeRef) :
    directWrap immutable base false first ≠ addNull (directWrap immutable base false second) := by
  induction first with
  | named name => exact ne_addNull length_le_directWrap
  | list of => exact addNull_ne_listText.symm
  | nonNull of ih => exact ih

/-- Types that are written alike are both non-null or both not, and they are alike without the
mark. -/
theorem of_wrap_eq (proper : first.isProper) (proper' : second.isProper)
    (same : wrap immutable base first = wrap immutable base second) :
    first.isNonNull = second.isNonNull ∧
      directWrap immutable base false first = directWrap immutable base false second := by
  rw [wrap_eq_directWrap proper, wrap_eq_directWrap proper', directWrap_true, directWrap_true]
    at same
  cases required : first.isNonNull <;> cases required' : second.isNonNull <;>
    simp only [required, required', Bool.false_eq_true, if_true, if_false] at same
  · exact ⟨rfl, addNull_inj.mp same⟩
  · exact absurd same.symm (directWrap_false_ne_addNull second first)
  · exact absurd same (directWrap_false_ne_addNull first second)
  · exact ⟨rfl, same⟩

/-- Types that are written alike have the same marks. Induction on the first type, with `of_wrap_eq`
at each mark. -/
theorem marks_eq_of_wrap_eq (proper : first.isProper) (proper' : second.isProper)
    (same : wrap immutable base first = wrap immutable base second) :
    first.marks = second.marks := by
  induction first generalizing second with
  | named name =>
    obtain ⟨required, bare⟩ := of_wrap_eq proper proper' same
    cases second with
    | named other => rfl
    | list of => exact absurd bare (ne_listText length_le_directWrap)
    | nonNull of => cases required
  | list of ih =>
    obtain ⟨required, bare⟩ := of_wrap_eq proper proper' same
    cases second with
    | named other => exact absurd bare.symm (ne_listText length_le_directWrap)
    | list of' =>
      rw [TypeRef.isProper_list] at proper proper'
      have inner := listText_inj.mp bare
      rw [← wrap_eq_directWrap proper, ← wrap_eq_directWrap proper'] at inner
      rw [TypeRef.marks, TypeRef.marks, ih proper proper' inner]
    | nonNull of' => cases required
  | nonNull of ih =>
    obtain ⟨required, bare⟩ := of_wrap_eq proper proper' same
    cases second with
    | named other => cases required
    | list of' => cases required
    | nonNull of' =>
      -- Below the marks both types are written with null around what is the same here.
      obtain ⟨plain, proper⟩ := TypeRef.isProper_nonNull.mp proper
      obtain ⟨plain', proper'⟩ := TypeRef.isProper_nonNull.mp proper'
      have inner : wrap immutable base of = wrap immutable base of' := by
        rw [wrap_eq_directWrap proper, wrap_eq_directWrap proper', directWrap_true,
          directWrap_true, plain, plain']
        exact congrArg addNull bare
      rw [TypeRef.marks, TypeRef.marks, ih proper proper' inner]

/-- The name of a type is not written. -/
theorem wrap_congr (same : first.marks = second.marks) :
    wrap immutable base first = wrap immutable base second := by
  -- On both types at once: with the same marks they have the same constructor.
  induction first generalizing second with
  | named name =>
    cases second with
    | named other => rfl
    | list of => cases same
    | nonNull of => cases same
  | list of ih =>
    cases second with
    | list of' => rw [wrap, wrap, ih (List.cons.inj same).2]
    | named other => cases same
    | nonNull of' => cases same
  | nonNull of ih =>
    cases second with
    | nonNull of' => rw [wrap, wrap, ih (List.cons.inj same).2]
    | named other => cases same
    | list of' => cases same

/-- Around a base, proper type references are written alike exactly if they have the same marks. -/
theorem wrap_eq_iff_marks (proper : first.isProper) (proper' : second.isProper) (immutable : Bool)
    (base : String) :
    wrap immutable base first = wrap immutable base second ↔ first.marks = second.marks :=
  ⟨marks_eq_of_wrap_eq proper proper', wrap_congr⟩

/-- A list of names and a list of required names are written differently, also if the base ends in
the mark. -/
theorem wrap_required_ne :
    let loose : TypeRef := .list (.named "A")
    let strict : TypeRef := .list (.nonNull (.named "A"))
    loose.isProper ∧ strict.isProper ∧ loose.marks ≠ strict.marks ∧
      wrap false "A | null" loose ≠ wrap false "A | null" strict := by
  intro loose strict
  have loosely : loose.isProper := rfl
  have strictly : strict.isProper := rfl
  have marked : loose.marks ≠ strict.marks := by decide
  exact ⟨loosely, strictly, marked, fun same =>
    marked ((wrap_eq_iff_marks loosely strictly false "A | null").mp same)⟩

end TypeScript

end SelectionTypes
