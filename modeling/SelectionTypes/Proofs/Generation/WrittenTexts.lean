import SelectionTypes.Proofs.Export.Duplicates
import SelectionTypes.Proofs.Generation.Imports
import SelectionTypes.Proofs.Naming.Identifiers
import SelectionTypes.Proofs.Naming.Numbers
import SelectionTypes.Proofs.Selection.KnownFields
import SelectionTypes.Proofs.Selection.MergedExports
import SelectionTypes.Proofs.TypeScript.Occurrence

/-!
# `SelectionTypes.Proofs.Generation.WrittenTexts`: the texts of a module

Most of what a module is written with are names: those of types, fields, variables, operations and
fragments, which no style gives a dot (`Settings.not_mem_identifier`). Beside them there are texts
that are given freely: the ends of type names, the texts of scalars, the comments of types, and the
names of exports.

If these texts are clear of a mark that ends in a dot, then each part of a module is written with
clear texts alone. There is one lemma for each function that makes a part: references and
supporting types (`Scope.IsClearOf`), types of selections (`SelectionScope.IsClearOf`), aliases
(`ExportedAlias.isClearOf_of_declare`) and operations. `Generator.isClearOf_of_declarations` puts
them together.
-/

set_option autoImplicit false

namespace SelectionTypes

open Outcome
open Lexeme (isNamePart)
open Text (isClearOf_of_not_mem)
open TypeScript (TypeExpr Declaration Property)

variable {mark : List Char} {name : String}

/-! ### Names -/

/-- A text that is made of the characters of names. -/
def IsPlain (name : String) : Prop :=
  name.toList.all isNamePart

instance : DecidablePred IsPlain :=
  fun name => inferInstanceAs (Decidable (name.toList.all isNamePart = true))

/-- Each character of a plain text may stand in a name. -/
theorem IsPlain.isNamePart_of_mem (plain : IsPlain name) : ∀ c ∈ name.toList, isNamePart c :=
  List.all_eq_true.mp plain

/-- A dot may not stand in a name, so a plain text has none. That is all that is needed of it where
a mark ends in a dot. -/
theorem IsPlain.not_mem_dot (plain : IsPlain name) : '.' ∉ name.toList :=
  fun inside => absurd (plain.isNamePart_of_mem '.' inside) (by decide)

/-- The name of an operation without a name is plain, since a number is written with digits. -/
theorem isPlain_numberedName (number : Nat) : IsPlain (numberedName number) := by
  have digits : (toString number).toList.all isNamePart = true :=
    List.all_eq_true.mpr fun c listed =>
      Bool.or_eq_true_iff.mpr (.inr (Settings.isDigit_of_mem_toString number c listed))
  unfold IsPlain
  rw [Settings.toList_numberedName, List.all_append, List.all_append, digits]
  rfl

namespace CaseStyle

/-- No style puts a dot between words. -/
theorem not_mem_dot_join (style : CaseStyle) : ∀ rules ∈ style.rules?, '.' ∉ rules.join := by
  cases style <;> decide

end CaseStyle

/-- A converted name has no dot. -/
theorem Settings.not_mem_identifier (settings : Settings) (plain : IsPlain name) :
    '.' ∉ (settings.identifier name).toList := by
  have word : ∀ {c : Char}, isWordChar c → c ≠ '.' := by
    rintro c isWord rfl
    exact absurd isWord (by decide)
  -- Letters and digits are no dots, and no style puts one between words.
  have allows : ∀ rules ∈ settings.namingConvention.rules?, rules.Allows (· ≠ '.') :=
    fun rules ruled =>
      { join := fun c inside same =>
          settings.namingConvention.not_mem_dot_join rules ruled (same ▸ inside)
        upper := fun _ c isWord => word (upperChar_of_isWordChar isWord).2.1
        lower := fun _ c isWord => word (lowerChar_of_isWordChar isWord).2.1 }
  have each := forall_identifier_of allows (by decide)
    (fun _ c inside same => plain.not_mem_dot (same ▸ inside)) plain.isNamePart_of_mem
  exact fun inside => each '.' inside rfl

/-! ### References of names -/

namespace TypeDefinition

/-- The names that a type is written with: its own, those of its fields, and those of their
types. -/
def names (type : TypeDefinition) : List String :=
  type.name :: type.fieldTypes.flatMap fun field => [field.1, field.2.base]

/-- The comments that a type is written with: its own and those of its fields. -/
def comments (type : TypeDefinition) : List String :=
  ((type.description :: type.fields.map FieldDefinition.description)
    ++ type.inputFields.map InputDefinition.description).filterMap Text.comment?

end TypeDefinition

namespace Scope

variable {scope : Scope} {definition : TypeDefinition}

/-- What a scope brings into a module is clear of a mark, apart from references into the global
module. -/
structure IsClearOf (scope : Scope) (mark : List Char) : Prop where
  ends : mark.getLast? = some '.'
  opening : Text.IsClearOf mark scope.settings.typesPrefix.toList
  closing : Text.IsClearOf mark scope.settings.typesSuffix.toList
  scalars : ∀ entry ∈ scope.scalars, ∀ side, Text.IsClearOf mark (entry.2.on side).toList
  names : ∀ type ∈ scope.schema.types, ∀ name ∈ type.names, IsPlain name
  comments : ∀ type ∈ scope.schema.ownTypes, type.kind.isFielded = true →
    ∀ comment ∈ type.comments, Text.IsClearOf mark comment.toList

namespace IsClearOf

variable (clear : scope.IsClearOf mark)

include clear

/-- A plain text is clear of the mark, which ends in a dot. -/
theorem plain (named : IsPlain name) : Text.IsClearOf mark name.toList :=
  isClearOf_of_not_mem clear.ends named.not_mem_dot

/-- The name of a type of the schema is plain. -/
theorem plain_of_type? (found : scope.schema.type? name = some definition) : IsPlain name := by
  rw [← Schema.name_of_type? found]
  exact clear.names definition (Schema.mem_of_type? found) _ List.mem_cons_self

/-- The name of a type that has a kind is plain. -/
theorem plain_of_kind? {kind : TypeKind} (known : scope.schema.kind? name = some kind) :
    IsPlain name := by
  obtain ⟨definition, found, -⟩ := Schema.kind?_eq_some.mp known
  exact clear.plain_of_type? found

/-- The name that a type is written with is clear, as the prefix, the converted name and the suffix
are. -/
theorem typeName (named : IsPlain name) :
    Text.IsClearOf mark (scope.settings.typeName name).toList := by
  have own : Text.IsClearOf mark (scope.settings.identifier name).toList :=
    isClearOf_of_not_mem clear.ends (scope.settings.not_mem_identifier named)
  exact (clear.opening.append_text own).append_text clear.closing

/-- A name with a suffix of its own is clear, whether the suffix is there already or not. -/
theorem suffixedName (named : IsPlain name) {suffix : String} (plain : '.' ∉ suffix.toList) :
    Text.IsClearOf mark (scope.settings.suffixedName suffix name).toList := by
  refine (clear.typeName named).append_text (isClearOf_of_not_mem clear.ends ?_)
  split
  · exact List.not_mem_nil
  · exact plain

/-- A text in the table of scalars is clear. -/
theorem scalarText {types : ScalarTypes} (found : scope.scalars.lookup name = some types)
    (side : Side) : Text.IsClearOf mark (types.on side).toList := by
  obtain ⟨front, behind, same, -⟩ := List.lookup_eq_some_iff.mp found
  exact clear.scalars (name, types) (same ▸ List.mem_append_right front List.mem_cons_self) side

/-- The reference of a name is written with clear texts. -/
theorem namedRef (named : IsPlain name) (side : Side) :
    (scope.namedRef name side).IsClearOf scope.settings mark := by
  intro part within
  rw [eq_of_within_namedRef within]
  rcases scope.namedRef_cases name side with ⟨types, found, same⟩ | same | same | same <;> rw [same]
  · exact List.forall_mem_singleton.mpr (clear.scalarText found side)
  · exact List.forall_mem_nil _
  · exact List.forall_mem_nil _
  · exact List.forall_mem_singleton.mpr (clear.typeName named)

/-- The reference of a variable is written with clear texts. -/
theorem variableRef (named : IsPlain name) :
    (scope.variableRef name).IsClearOf scope.settings mark := by
  intro part within
  rw [eq_of_within_variableRef within]
  rcases scope.variableRef_cases name with ⟨types, side, found, same⟩ | same | same <;> rw [same]
  · exact List.forall_mem_singleton.mpr (clear.scalarText found side)
  · exact List.forall_mem_nil _
  · exact List.forall_mem_singleton.mpr (clear.typeName named)

/-- The declaration of the type of variables is written with clear texts. -/
theorem variablesDeclaration (named : Text.IsClearOf mark name.toList)
    {declared : List VariableDefinition}
    (plain : ∀ definition ∈ declared, IsPlain definition.name ∧ IsPlain definition.type.base) :
    (scope.variablesDeclaration name declared).IsClearOf scope.settings mark := by
  refine ⟨?_, fun type isType => ?_⟩
  · -- The texts of the declaration itself: its name and those of the variables.
    unfold Scope.variablesDeclaration
    split
    · exact List.forall_mem_singleton.mpr named
    · refine List.forall_mem_cons.mpr ⟨named, ?_⟩
      simp only [Option.toList_none, List.nil_append, List.forall_mem_flatMap, variableProperties,
        List.forall_mem_map]
      exact fun definition listed =>
        List.forall_mem_singleton.mpr (clear.plain (plain definition listed).1)
  · rcases type_of_variablesDeclaration isType with rfl | ⟨definition, listed, rfl⟩
    · -- Without variables the type is a text of its own.
      intro part within
      cases within
      exact List.forall_mem_singleton.mpr (isClearOf_of_not_mem clear.ends (by decide))
    · exact (clear.variableRef (plain definition listed).2).marked definition.type

/-- The properties of a supporting type have clear names, comments and types. -/
theorem typeProperties (isType : definition ∈ scope.schema.ownTypes)
    (fielded : definition.kind.isFielded = true) :
    ∀ property ∈ scope.typeProperties definition,
      Text.IsClearOf mark property.1.name.toList ∧
        (∀ comment ∈ property.1.description, Text.IsClearOf mark comment.toList) ∧
        property.2.IsClearOf scope.settings mark := by
  have plain := clear.names definition (List.mem_of_mem_filter isType)
  have comments := clear.comments definition isType fielded
  simp only [TypeDefinition.names, TypeDefinition.fieldTypes_eq, List.forall_mem_cons,
    List.forall_mem_flatMap, List.forall_mem_append, List.forall_mem_map] at plain
  simp only [TypeDefinition.comments, List.forall_mem_filterMap, List.forall_mem_append,
    List.forall_mem_cons, List.forall_mem_map] at comments
  obtain ⟨own, fields, inputFields⟩ := plain
  obtain ⟨⟨-, fieldComments⟩, inputComments⟩ := comments
  unfold Scope.typeProperties
  rw [List.forall_mem_append, List.forall_mem_append, List.forall_mem_map, List.forall_mem_map]
  -- The property that tells the type, the fields, and the fields of an input.
  refine ⟨⟨?_, fun field listed => ?_⟩, fun input listed => ?_⟩
  · split
    · have key : '.' ∉ "__typename".toList := by decide
      exact List.forall_mem_singleton.mpr ⟨isClearOf_of_not_mem clear.ends key, nofun,
        TypeExpr.isClearOf_typename (clear.plain own)⟩
    · exact List.forall_mem_nil _
  · obtain ⟨named, typed, -⟩ := fields field listed
    exact ⟨clear.plain named, fieldComments field listed, (clear.namedRef typed _).marked _⟩
  · obtain ⟨named, typed, -⟩ := inputFields input listed
    exact ⟨clear.plain named, inputComments input listed, (clear.namedRef typed _).marked _⟩

/-- The declaration of a supporting type is written with clear texts. -/
theorem typeDeclaration (isType : definition ∈ scope.schema.ownTypes)
    (fielded : definition.kind.isFielded = true) :
    (scope.typeDeclaration definition).IsClearOf scope.settings mark := by
  have each := clear.typeProperties isType fielded
  have own : ∀ comment ∈ Text.comment? definition.description,
      Text.IsClearOf mark comment.toList := fun comment given =>
    clear.comments definition isType fielded comment
      (List.mem_filterMap.mpr ⟨_, List.mem_cons_self, given⟩)
  refine ⟨?_, fun type isType => ?_⟩
  · -- Its own texts are the name, the comment, and the names and comments of properties.
    simp only [Scope.typeDeclaration, Declaration.ownTexts, List.forall_mem_cons,
      List.forall_mem_append, List.forall_mem_flatMap, Option.mem_toList]
    refine ⟨clear.typeName (clear.names definition (List.mem_of_mem_filter isType) _
      List.mem_cons_self), own, fun property listed => ?_⟩
    exact ⟨(each property listed).1, (each property listed).2.1⟩
  · obtain ⟨property, listed, rfl⟩ := List.mem_map.mp isType
    exact (each property listed).2.2

end IsClearOf

end Scope

/-! ### Types of selections -/

/-- A field has a name for a key, and it is exported under a name that is clear of a mark. -/
structure FieldHead.IsClearOf (mark : List Char) (head : FieldHead) : Prop where
  key : IsPlain head.responseKey
  exported : ∀ name, head.exportName = .ok name → Text.IsClearOf mark name.toList

/-- All fields of selections, at any depth, are clear of a mark. -/
def Selection.AreClearOf (mark : List Char) (selections : List Selection) : Prop :=
  ∀ head ∈ headsOf selections, head.IsClearOf mark

/-- A field is clear of a mark, together with those below it. -/
def SelectedField.IsClearOf (mark : List Char) (field : SelectedField) : Prop :=
  field.head.IsClearOf mark ∧ Selection.AreClearOf mark field.selections

namespace SelectionScope

variable {scope : SelectionScope} {inner : Inner} {parent : String} {expression : TypeExpr}
variable {fields : List SelectedField} {selections : List Selection}

/-- What selections are read with is clear of a mark: the scope and the fields of fragments. -/
structure IsClearOf (scope : SelectionScope) (mark : List Char) : Prop
    extends scope.toScope.IsClearOf mark where
  wellFormed : scope.schema.WellFormed
  fragments : ∀ loaded ∈ scope.fragments, Selection.AreClearOf mark loaded.fragment.selections

/-- What is written for clear selections is clear. -/
def WritesClear (scope : SelectionScope) (mark : List Char) (inner : Inner) : Prop :=
  ∀ ⦃parent selections expression⦄, Selection.AreClearOf mark selections →
    inner parent selections = .ok expression → expression.IsClearOf scope.settings mark

namespace IsClearOf

variable (clear : scope.IsClearOf mark)

include clear

/-- The property of a group of clear fields is clear. -/
theorem property (below : scope.WritesClear mark inner) (isParent : IsPlain parent)
    {group : SelectedField × List SelectedField}
    (each : ∀ field ∈ SelectedField.members group, field.IsClearOf mark) {written : Property}
    (succeeds : scope.property inner parent group = .ok written) :
    Text.IsClearOf mark written.1.name.toList ∧ written.2.IsClearOf scope.settings mark := by
  constructor
  · rw [name_of_property succeeds]
    exact clear.plain (each group.1 List.mem_cons_self).1.key
  rcases property_eq_ok succeeds with ⟨-, rfl⟩ | ⟨-, type, -, isType, -⟩
  · exact TypeExpr.isClearOf_typename (clear.plain isParent)
  -- The type is that of an export, of a leaf, or of what is selected below.
  · rcases groupType_eq_ok isType with
      ⟨-, field, listed, name, isName, same⟩ | ⟨leaf, same⟩ | ⟨-, deeper, isDeeper, same⟩
    · rw [same]
      exact (TypeExpr.isClearOf_aliasRef ((each field listed).1.exported name isName)).marked type
    · rw [same]
      obtain ⟨kind, known, -⟩ := (Option.any_eq_true _ _).mp leaf
      exact (clear.namedRef (clear.plain_of_kind? known) .output).marked type
    · rw [same]
      refine (below (fun head inside => ?_) isDeeper).marked type
      obtain ⟨field, listed, own⟩ := Selection.mem_headsOf_flatMap.mp inside
      exact (each field listed).2 head own

/-- The shape of an object type with clear fields is clear. -/
theorem objectShape (below : scope.WritesClear mark inner) (isParent : IsPlain parent)
    (each : ∀ field ∈ fields, field.IsClearOf mark)
    (succeeds : scope.objectShape inner parent fields = .ok expression) :
    expression.IsClearOf scope.settings mark := by
  obtain ⟨properties, made, rfl⟩ := objectShape_eq_ok.mp succeeds
  have own : ∀ property ∈ properties, Text.IsClearOf mark property.1.name.toList ∧
      property.2.IsClearOf scope.settings mark := by
    intro property listed
    obtain ⟨group, grouped, isProperty⟩ := Lists.exists_of_mem_right made listed
    exact clear.property below isParent
      (fun field member => each field (SelectedField.mem_of_mem_groups grouped member).1) isProperty
  refine TypeExpr.isClearOf_object ?_
  unfold withTypename
  -- The property that tells the type may stand in front.
  split
  · have key : '.' ∉ typenameField.toList := by decide
    exact List.forall_mem_cons.mpr ⟨⟨isClearOf_of_not_mem clear.ends key,
      TypeExpr.isClearOf_typename (clear.plain isParent)⟩, own⟩
  · exact own

/-- The fields of object types that clear selections are flattened to are clear. -/
theorem flatten (areClear : Selection.AreClearOf mark selections)
    {flattened : List (String × List SelectedField)}
    (flattens : Selection.flatten scope.schema scope.fragments parent selections = .ok flattened)
    {entry : String × List SelectedField} (inside : entry ∈ flattened) :
    IsPlain entry.1 ∧ ∀ field ∈ entry.2, field.IsClearOf mark := by
  refine ⟨?_, fun field listed => ?_⟩
  · obtain ⟨types, distributed, concrete, -, rfl⟩ := Selection.flatten_eq_ok.mp flattens
    obtain ⟨type, listed, rfl⟩ := List.mem_map.mp inside
    exact clear.plain_of_kind? (clear.wellFormed.kind?_of_mem_concreteTypes concrete
      (List.mem_eraseDups.mp listed))
  · exact (Selection.selects_of_flatten flattens inside field listed).forall_heads
      clear.fragments areClear

/-- The type of clear selections is clear. -/
theorem typeWithin (bound : Nat) : scope.WritesClear mark (scope.typeWithin bound) := by
  induction bound with
  | zero => exact fun _ _ _ _ succeeds => nomatch succeeds
  | succ bound ih =>
    intro parent selections expression areClear succeeds
    obtain ⟨flattened, shapes, flattens, each, rfl⟩ := typeWithin_eq_ok.mp succeeds
    refine TypeExpr.isClearOf_union fun shape listed => ?_
    obtain ⟨entry, inside, isShape⟩ := Lists.exists_of_mem_right each listed
    obtain ⟨isParent, fields⟩ := clear.flatten areClear flattens inside
    exact clear.objectShape ih isParent fields isShape

/-- The shape that clear selections have on a type is clear. -/
theorem shapeOf (isParent : IsPlain parent) (areClear : Selection.AreClearOf mark selections)
    (succeeds : scope.shapeOf parent selections = .ok expression) :
    expression.IsClearOf scope.settings mark := by
  obtain ⟨flattened, flattens, isShape⟩ := bind_eq_ok.mp succeeds
  refine clear.objectShape (clear.typeWithin _) isParent (fun field listed => ?_) isShape
  cases found : flattened.lookup parent with
  | none =>
    rw [found] at listed
    cases listed
  | some fields =>
    rw [found] at listed
    obtain ⟨front, behind, rfl, -⟩ := List.lookup_eq_some_iff.mp found
    exact (clear.flatten areClear flattens (List.mem_append_right front List.mem_cons_self)).2
      field listed

end IsClearOf

end SelectionScope

/-! ### Aliases -/

namespace ExportedAlias

variable {scope : SelectionScope} {parent : String} {selections : List Selection}
variable {aliases : List ExportedAlias} {declarations : List Declaration}

/-- The name for an object type is clear, as it is a clear name with a plain text behind it. -/
theorem isClearOf_implementorName (clear : scope.IsClearOf mark) {type : String}
    (isName : Text.IsClearOf mark name.toList) (isType : IsPlain type) :
    Text.IsClearOf mark (implementorName name type).toList :=
  (isName.append_text (isClearOf_of_not_mem clear.ends (by decide))).append_text
    (clear.plain isType)

/-- An alias that clear selections export has a clear name and a clear shape. -/
theorem isClearOf_of_collect (clear : scope.IsClearOf mark)
    (areClear : Selection.AreClearOf mark selections)
    (collects : collect scope.schema parent selections = .ok aliases) {exported : ExportedAlias}
    (listed : exported ∈ aliases) {shape : TypeExpr} (isShape : exported.shape scope = .ok shape) :
    Text.IsClearOf mark exported.name.toList ∧ shape.IsClearOf scope.settings mark := by
  obtain ⟨rfl, made⟩ := collected_eq_flatMap collects
  obtain ⟨⟨static, field⟩, inside, own⟩ := List.mem_flatMap.mp listed
  obtain ⟨rfl, -, name, type, isName, -, part⟩ := (made _ inside).name_of_mem clear.wellFormed own
  have subset := (mem_exportedFields.mp inside).1.headsOf_subset
  obtain ⟨exports, below, -⟩ :=
    Selection.forall_headsOf_field.mp fun head own => areClear head (subset own)
  obtain ⟨definition, found, shaped⟩ := shape_eq_ok.mp isShape
  have named : Text.IsClearOf mark exported.name.toList := by
    rcases part with ⟨-, same⟩ | ⟨-, same⟩
    · exact same ▸ exports.exported name isName
    · rw [same]
      exact isClearOf_implementorName clear (exports.exported name isName)
        (clear.plain_of_type? found)
  refine ⟨named, ?_⟩
  rcases shaped with ⟨-, rfl⟩ | ⟨-, isObject⟩
  · refine TypeExpr.isClearOf_aliasRefs (List.forall_mem_map.mpr fun concrete possible => ?_)
    exact isClearOf_implementorName clear named (clear.plain_of_kind?
      (clear.wellFormed.kind?_of_mem_possibleTypes (Schema.mem_of_type? found) possible))
  · exact clear.shapeOf (clear.plain_of_type? found) below isObject

/-- The declarations of aliases that clear selections export are clear. -/
theorem isClearOf_of_declare (clear : scope.IsClearOf mark)
    (areClear : Selection.AreClearOf mark selections)
    (collects : collect scope.schema parent selections = .ok aliases)
    (declares : declare scope aliases = .ok declarations) :
    ∀ declaration ∈ declarations, declaration.IsClearOf scope.settings mark := by
  obtain ⟨shapes, each, rfl⟩ := declare_eq_ok.mp declares
  have entries : ∀ entry ∈ shapes, Text.IsClearOf mark entry.1.toList ∧
      entry.2.IsClearOf scope.settings mark := by
    intro entry inside
    obtain ⟨exported, listed, same, isShape⟩ := Lists.exists_of_mem_right each inside
    exact same ▸ isClearOf_of_collect clear areClear collects listed isShape
  refine List.forall_mem_map.mpr fun name isName => ?_
  obtain ⟨entry, inside, rfl⟩ := List.mem_map.mp (List.mem_eraseDups.mp isName)
  refine ⟨List.forall_mem_singleton.mpr (entries entry inside).1, ?_⟩
  exact List.forall_mem_map.mpr fun other kept => (entries other (List.mem_of_mem_filter kept)).2

end ExportedAlias

/-! ### Modules -/

/-- The names of an operation: its own, those of its variables, and those of their types. -/
def Operation.names (operation : Operation) : List String :=
  operation.name.toList ++ operation.declaredVariables.flatMap fun definition =>
    [definition.name, definition.type.base]

namespace Generator

variable {generator : Generator} {unnamed : Nat} {declarations part : List Declaration}

/-- What a module is made from is clear of a mark. -/
structure IsClearOf (generator : Generator) (mark : List Char) : Prop where
  scope : generator.scope.IsClearOf mark
  operations : ∀ operation ∈ generator.operations,
    (∀ name ∈ operation.names, IsPlain name) ∧ Selection.AreClearOf mark operation.selections
  fragments : ∀ fragment ∈ generator.fragments,
    IsPlain fragment.name ∧ Selection.AreClearOf mark fragment.selections

/-- The declarations for clear selections are clear. -/
theorem isClearOf_of_selectionDeclarations (clear : generator.scope.IsClearOf mark)
    {parent : String} {before : List Declaration} {selections : List Selection}
    (named : Text.IsClearOf mark name.toList)
    (first : ∀ declaration ∈ before, declaration.IsClearOf generator.settings mark)
    (areClear : Selection.AreClearOf mark selections)
    (succeeds : generator.selectionDeclarations name parent before selections = .ok part) :
    ∀ declaration ∈ part, declaration.IsClearOf generator.settings mark := by
  obtain ⟨aliases, type, exported, collects, typed, declares, rfl⟩ :=
    selectionDeclarations_eq_ok.mp succeeds
  refine List.forall_mem_append.mpr ⟨first, List.forall_mem_cons.mpr ⟨⟨?_, ?_⟩, ?_⟩⟩
  · exact List.forall_mem_singleton.mpr named
  · exact List.forall_mem_singleton.mpr (clear.typeWithin _ areClear typed)
  · exact ExportedAlias.isClearOf_of_declare clear areClear collects declares

/-- The name of the type of an operation is clear, numbered or not. -/
theorem isClearOf_operationName (clear : generator.scope.IsClearOf mark) (unnamed : Nat)
    {operation : Operation} (plain : ∀ name ∈ operation.name, IsPlain name) :
    Text.IsClearOf mark (generator.operationName unnamed operation).1.toList := by
  have suffix : '.' ∉ operation.kind.suffix.toList := by cases operation.kind <;> decide
  unfold operationName
  split
  · next name isName => exact clear.suffixedName (plain name isName) suffix
  · exact clear.suffixedName (isPlain_numberedName (unnamed + 1)) suffix

/-- The declarations of a clear operation are clear. -/
theorem isClearOf_of_operationDeclarations (clear : generator.scope.IsClearOf mark)
    {operation : Operation} (plain : ∀ name ∈ operation.names, IsPlain name)
    (areClear : Selection.AreClearOf mark operation.selections)
    (succeeds : (generator.operationDeclarations unnamed operation).1 = .ok part) :
    ∀ declaration ∈ part, declaration.IsClearOf generator.settings mark := by
  simp only [Operation.names, List.forall_mem_append, List.forall_mem_flatMap,
    List.forall_mem_cons, Option.mem_toList] at plain
  obtain ⟨root, -, own⟩ := operationDeclarations_eq_ok.mp succeeds
  have named := isClearOf_operationName clear unnamed plain.1
  refine isClearOf_of_selectionDeclarations clear named (List.forall_mem_singleton.mpr ?_)
    areClear own
  refine clear.variablesDeclaration
    (named.append_text (isClearOf_of_not_mem clear.ends (by decide))) fun definition listed => ?_
  exact ⟨(plain.2 definition listed).1, (plain.2 definition listed).2.1⟩

/-- The declarations of supporting types are clear. -/
theorem isClearOf_of_supporting (clear : generator.scope.IsClearOf mark)
    (succeeds : generator.supporting = .ok part) :
    ∀ declaration ∈ part, declaration.IsClearOf generator.settings mark := by
  obtain ⟨types, isTypes, assembled⟩ := bind_eq_ok.mp succeeds
  cases assembled
  obtain ⟨_, isWritten, -⟩ := bind_eq_ok.mp isTypes
  rw [Schema.supportingTypes_eq isWritten] at isTypes
  cases isTypes
  refine List.forall_mem_map.mpr fun type kept => ?_
  obtain ⟨isType, fielded⟩ := List.mem_filter.mp (List.mem_of_mem_filter kept)
  exact clear.typeDeclaration isType fielded

/-- The declarations of a module that is made from what is clear are clear. -/
theorem isClearOf_of_declarations (clear : generator.IsClearOf mark)
    (succeeds : generator.declarations unnamed = .ok declarations) :
    ∀ declaration ∈ declarations, declaration.IsClearOf generator.settings mark := by
  obtain ⟨supporting, _, fragments, isSupporting, written, traversed, rfl⟩ :=
    declarations_eq_ok.mp succeeds
  obtain ⟨parts, rfl, each⟩ := parts_of_operationsDeclarations written
  -- In the order of the module: supporting types, operations, fragments.
  refine List.forall_mem_append.mpr ⟨List.forall_mem_append.mpr ⟨?_, ?_⟩, ?_⟩
  · exact isClearOf_of_supporting clear.scope isSupporting
  · intro declaration listed
    obtain ⟨part, isPart, inside⟩ := List.mem_flatten.mp listed
    obtain ⟨operation, given, unnamed, isOwn⟩ := Lists.exists_of_mem_right each isPart
    obtain ⟨plain, areClear⟩ := clear.operations operation given
    exact isClearOf_of_operationDeclarations clear.scope plain areClear isOwn declaration inside
  · intro declaration listed
    obtain ⟨part, isPart, inside⟩ := List.mem_flatten.mp listed
    obtain ⟨fragment, given, isOwn⟩ := Lists.exists_of_mem_right (mapM_eq_ok.mp traversed) isPart
    obtain ⟨plain, areClear⟩ := clear.fragments fragment given
    exact isClearOf_of_selectionDeclarations clear.scope
      (clear.scope.suffixedName plain (by decide)) (List.forall_mem_nil _) areClear isOwn
      declaration inside

end Generator

end SelectionTypes
