import Mathlib.Data.List.Flatten
import SelectionTypes.Proofs.Support.Outcome
import SelectionTypes.Proofs.Schema.WellFormed
import SelectionTypes.Schema.Build

/-!
# `SelectionTypes.Proofs.Schema.Build`: schemas that are built are well-formed

`Document.wellFormed_of_toSchema`: a document that describes a schema describes a well-formed one.
Input fields of such a schema have types that a caller can give (`Document.isInput_of_toSchema`).

The names are distinct because of the walk over the definitions. A walk only ever adds to what it
has met and to the problems it has found (`DefinitionWalk.Grows`). So if no problem is left at the
end, what each definition marks was new when it was met (`Document.nodup_marks`). The members of
unions are objects because of the search for parts that cannot be resolved.
-/

set_option autoImplicit false

namespace SelectionTypes

/-! ### Walks only add -/

namespace DefinitionWalk

/-- A step of a walk forgets neither what has been met nor a problem. -/
def Grows {α : Type} (step : StateM DefinitionFindings α) : Prop :=
  ∀ before : DefinitionFindings, before.marks ⊆ (step before).2.marks ∧
    before.problems ⊆ (step before).2.problems

/-- A step that does nothing forgets nothing. -/
theorem grows_pure {α : Type} (value : α) : Grows (pure value : StateM DefinitionFindings α) :=
  fun _ => ⟨List.Subset.refl _, List.Subset.refl _⟩

/-- Neither does a step that looks at what has been met. -/
theorem grows_get : Grows (get : StateM DefinitionFindings DefinitionFindings) :=
  fun _ => ⟨List.Subset.refl _, List.Subset.refl _⟩

/-- Steps behind each other add what each of them adds. -/
theorem Grows.bind {α β : Type} {step : StateM DefinitionFindings α}
    {next : α → StateM DefinitionFindings β} (first : Grows step)
    (rest : ∀ value, Grows (next value)) : Grows (step >>= next) := by
  intro before
  obtain ⟨marks, problems⟩ := first before
  obtain ⟨moreMarks, moreProblems⟩ := rest (step before).1 (step before).2
  exact ⟨List.Subset.trans marks moreMarks, List.Subset.trans problems moreProblems⟩

/-- A choice between two steps forgets nothing if neither of them does. -/
theorem Grows.ite {α : Type} {step other : StateM DefinitionFindings α} {condition : Prop}
    [Decidable condition] (first : Grows step) (second : Grows other) :
    Grows (if condition then step else other) := by
  split
  · exact first
  · exact second

/-- A report adds a problem and nothing else. -/
theorem grows_report (problem : DefinitionProblem) : Grows (report problem) :=
  fun _ => ⟨List.Subset.refl _, List.subset_cons_self _ _⟩

/-- A report under a condition forgets nothing. -/
theorem grows_reportIf (condition : Bool) (problem : DefinitionProblem) :
    Grows (reportIf condition problem) :=
  (grows_report problem).ite (grows_pure _)

/-- Meeting a mark adds the mark or a problem. -/
theorem grows_once (mark : DefinitionMark) (problem : DefinitionProblem) :
    Grows (once mark problem) :=
  grows_get.bind fun _ => (grows_report problem).ite fun _ =>
    ⟨List.subset_cons_self _ _, List.Subset.refl _⟩

/-- Steps for the items of a list forget nothing if each of them forgets nothing. -/
theorem grows_forM {α : Type} {step : α → DefinitionWalk} (items : List α)
    (each : ∀ item, Grows (step item)) : Grows (items.forM step) := by
  induction items with
  | nil => exact grows_pure _
  | cons item items ih => exact (each item).bind fun _ => ih

/-- The same of a step for an item that there may be. -/
theorem grows_optionForM {α : Type} {step : α → DefinitionWalk} (item : Option α)
    (each : ∀ item, Grows (step item)) : Grows (item.forM step) := by
  cases item with
  | none => exact grows_pure _
  | some item => exact each item

end DefinitionWalk

namespace DefinitionContext

open DefinitionWalk

variable (context : DefinitionContext)

/-- Looking a name up can only add a problem. -/
theorem grows_typeName (inSchema : Bool) (name : String) :
    Grows (context.typeName inSchema name) := by
  unfold typeName
  exact (grows_pure _).ite ((grows_pure _).ite (grows_report _))

mutual

/-- The walk over a value forgets nothing. It goes by the constructors of values, together with the
next two. -/
theorem grows_value : ∀ item : Value, Grows (value item)
  | .list items => by
    rw [value]
    exact grows_values items
  | .object fields => by
    rw [value]
    exact grows_valueFields [] fields
  | .variable _ | .int _ | .float _ | .string _ _ | .boolean _ | .null | .enum _ => by
    simp only [value]
    exact grows_pure _

/-- The walk over the members of a list forgets nothing. -/
theorem grows_values : ∀ items : List Value, Grows (values items)
  | [] => by
    rw [values]
    exact grows_pure _
  | item :: items => by
    rw [values]
    exact (grows_value item).bind fun _ => grows_values items

/-- The walk over the fields of an object forgets nothing. -/
theorem grows_valueFields : ∀ (met : List String) (fields : List (String × Value)),
    Grows (valueFields met fields)
  | _, [] => by
    rw [valueFields]
    exact grows_pure _
  | met, (name, item) :: fields => by
    rw [valueFields]
    exact (grows_reportIf _ _).bind fun _ =>
      (grows_value item).bind fun _ => grows_valueFields (name :: met) fields

end

/-- The walk over given arguments forgets nothing. -/
theorem grows_givenArguments (arguments : List Argument) : Grows (givenArguments arguments) :=
  grows_forM arguments fun argument => grows_value argument.value

/-- The walk over a directive forgets nothing, whether it is known or not. -/
theorem grows_directive (location : String) (applied : Directive) :
    Grows (context.directive location applied) := by
  unfold directive
  cases context.directive? applied.name with
  | none =>
    exact (grows_report _).bind fun _ => (grows_forM _ fun _ => grows_report _).bind fun _ =>
      (grows_givenArguments _).bind fun _ => grows_pure _
  | some definition =>
    exact (grows_reportIf _ _).bind fun _ =>
      (grows_forM _ fun _ => grows_reportIf _ _).bind fun _ =>
        (grows_forM _ fun _ => grows_report _).bind fun _ =>
          (grows_givenArguments _).bind fun _ => grows_forM _ fun _ => grows_reportIf _ _

/-- The walk over the directives of one place forgets nothing. -/
theorem grows_directivesAt (location : String) (applied : List Directive) :
    Grows (context.directivesAt location applied) :=
  grows_forM applied (context.grows_directive location)

/-- The search for directives that are there twice forgets nothing. -/
theorem grows_singleDirectives (mark : String → DefinitionMark) (applied : List Directive) :
    Grows (context.singleDirectives mark applied) :=
  grows_forM applied fun _ => (grows_once _ _).ite (grows_pure _)

/-- The search along a list for directives that are there twice forgets nothing. -/
theorem grows_twiceApplied (met : List String) (applied : List Directive) :
    Grows (context.twiceApplied met applied) := by
  induction applied generalizing met with
  | nil => exact grows_pure _
  | cons directive rest ih =>
    have behind := ih (directive.name :: met)
    unfold twiceApplied
    exact Grows.ite ((grows_reportIf _ _).bind fun _ => behind) behind

/-- The same of the directives of a part of a definition. -/
theorem grows_partDirectives (applied : List Directive) :
    Grows (context.partDirectives applied) :=
  context.grows_twiceApplied [] applied

/-- The walk over an argument or an input field forgets nothing. -/
theorem grows_input (location : String) (input : InputDefinition) :
    Grows (context.input location input) :=
  (context.grows_partDirectives _).bind fun _ => (context.grows_typeName _ _).bind fun _ =>
    (grows_optionForM _ grows_value).bind fun _ => context.grows_directivesAt _ _

/-- The walk over a field forgets nothing. -/
theorem grows_field (field : FieldDefinition) : Grows (context.field field) :=
  (context.grows_partDirectives _).bind fun _ =>
    (grows_forM _ (context.grows_input _)).bind fun _ =>
      (context.grows_typeName _ _).bind fun _ => context.grows_directivesAt _ _

/-- The search for arguments of one name forgets nothing. -/
theorem grows_argumentDefinitions (owner : String) (arguments : List InputDefinition) :
    Grows (argumentDefinitions owner arguments) :=
  grows_forM _ fun _ => grows_report _

/-- Meeting the members of a type forgets nothing. Only types of fields and enums have members to
meet. -/
theorem grows_memberNames (type : TypeDefinition) : Grows (memberNames type) := by
  unfold memberNames
  -- Objects and interfaces have the same walk over their fields.
  have fieldNames (fields : List FieldDefinition) :
      Grows (do
        fields.forM fun field =>
          once (.field type.name field.name) (.repeatedField type.name field.name)
        fields.forM fun field =>
          argumentDefinitions (type.name ++ "." ++ field.name) field.arguments) :=
    (grows_forM _ fun _ => grows_once _ _).bind fun _ =>
      grows_forM _ fun _ => grows_argumentDefinitions _ _
  cases type.body with
  | scalar => exact grows_pure _
  | object interfaces fields => exact fieldNames fields
  | interface interfaces fields => exact fieldNames fields
  | union members => exact grows_pure _
  | enum values => exact grows_forM _ fun _ => grows_once _ _
  | inputObject fields => exact grows_forM _ fun _ => grows_once _ _

/-- The walk over the members of a type forgets nothing. -/
theorem grows_members (isExtension : Bool) (type : TypeDefinition) :
    Grows (context.members isExtension type) := by
  unfold members
  refine (grows_forM _ (context.grows_typeName true)).bind fun _ =>
    (context.grows_directivesAt _ _).bind fun _ => ?_
  cases type.body with
  | scalar => exact grows_pure _
  | object interfaces fields => exact grows_forM _ context.grows_field
  | interface interfaces fields => exact grows_forM _ context.grows_field
  | union names => exact grows_forM _ (context.grows_typeName true)
  | enum values =>
    exact grows_forM _ fun _ =>
      (context.grows_partDirectives _).bind fun _ => context.grows_directivesAt _ _
  | inputObject fields => exact grows_forM _ (context.grows_input _)

/-- Looking up what an extension extends can only add a problem. -/
theorem grows_extended (type : TypeDefinition) : Grows (context.extended type) := by
  unfold extended
  cases context.type? type.name with
  | none => exact grows_report _
  | some found => exact grows_reportIf _ _

/-- The walk over the root types forgets nothing. -/
theorem grows_schemaBlock (block : SchemaBlock) : Grows (context.schemaBlock block) :=
  (grows_forM _ fun _ => grows_once _ _).bind fun _ =>
    (context.grows_singleDirectives _ _).bind fun _ =>
      (context.grows_directivesAt _ _).bind fun _ =>
        grows_forM _ fun _ => context.grows_typeName _ _

/-- The walk over selections forgets nothing, at any depth. -/
theorem grows_selections (selected : List Selection) : Grows (context.selections selected) := by
  -- Along the walk, which goes below each field and each inline fragment.
  fun_induction selections context selected with
  | case1 => exact grows_pure _
  | case2 head inner rest ihInner ihRest =>
    exact (context.grows_partDirectives _).bind fun _ =>
      (grows_forM _ fun _ => grows_report _).bind fun _ =>
        (grows_givenArguments _).bind fun _ =>
          (context.grows_directivesAt _ _).bind fun _ => ihInner.bind fun _ => ihRest
  | case3 name directives rest ih =>
    exact (context.grows_partDirectives _).bind fun _ =>
      (context.grows_directivesAt _ _).bind fun _ => ih
  | case4 condition directives inner rest ihInner ihRest =>
    exact (context.grows_partDirectives _).bind fun _ =>
      (grows_optionForM _ (context.grows_typeName false)).bind fun _ =>
        (context.grows_directivesAt _ _).bind fun _ => ihInner.bind fun _ => ihRest

/-- The walk over a variable forgets nothing. -/
theorem grows_variableDefinition (declared : VariableDefinition) :
    Grows (context.variableDefinition declared) :=
  (context.grows_partDirectives _).bind fun _ => (context.grows_typeName _ _).bind fun _ =>
    (grows_optionForM _ grows_value).bind fun _ => context.grows_directivesAt _ _

/-- The walk over a definition of any sort forgets nothing. -/
theorem grows_definition (definition : Definition) : Grows (context.definition definition) := by
  -- Each sort of definition is a sequence of steps, all of which only add.
  cases definition with
  | operation operation =>
    exact (context.grows_partDirectives _).bind fun _ =>
      (grows_forM _ context.grows_variableDefinition).bind fun _ =>
        (context.grows_directivesAt _ _).bind fun _ => context.grows_selections _
  | fragment fragment =>
    exact (context.grows_partDirectives _).bind fun _ =>
      (context.grows_typeName _ _).bind fun _ =>
        (context.grows_directivesAt _ _).bind fun _ => context.grows_selections _
  | schema block => exact (grows_once _ _).bind fun _ => context.grows_schemaBlock block
  | schemaExtension block => exact context.grows_schemaBlock block
  | type type =>
    exact (grows_once _ _).bind fun _ => (grows_memberNames type).bind fun _ =>
      (context.grows_singleDirectives _ _).bind fun _ => context.grows_members false type
  | typeExtension type =>
    exact (grows_memberNames type).bind fun _ =>
      (context.grows_singleDirectives _ _).bind fun _ =>
        (context.grows_extended type).bind fun _ => context.grows_members true type
  | directive directive =>
    exact (grows_argumentDefinitions _ _).bind fun _ => (grows_once _ _).bind fun _ =>
      grows_forM _ (context.grows_input _)

end DefinitionContext

/-! ### What is met once -/

namespace DefinitionWalk

/-- Meeting what has been met is a problem. -/
theorem once_of_met {mark : DefinitionMark} {problem : DefinitionProblem}
    {before : DefinitionFindings} (met : mark ∈ before.marks) :
    (once mark problem before).2 = { before with problems := problem :: before.problems } := by
  simp [once, report, met, get, getThe, MonadStateOf.get, StateT.get, modify, modifyGet,
    MonadStateOf.modifyGet, StateT.modifyGet, bind, StateT.bind, pure]

/-- Meeting what is new marks it. -/
theorem once_of_new {mark : DefinitionMark} {problem : DefinitionProblem}
    {before : DefinitionFindings} (new : mark ∉ before.marks) :
    (once mark problem before).2 = { before with marks := mark :: before.marks } := by
  simp [once, new, get, getThe, MonadStateOf.get, StateT.get, modify, modifyGet,
    MonadStateOf.modifyGet, StateT.modifyGet, bind, StateT.bind, pure]

/-- If a step leaves no problem, then it has met some marks for the first time, each of them
once. -/
def Meets {α : Type} (step : StateM DefinitionFindings α) (marks : List DefinitionMark) : Prop :=
  ∀ before : DefinitionFindings, (step before).2.problems = [] →
    marks.Nodup ∧ ∀ mark ∈ marks, mark ∉ before.marks ∧ mark ∈ (step before).2.marks

/-- Any step meets no marks at all for the first time. -/
theorem meets_nothing {α : Type} (step : StateM DefinitionFindings α) : Meets step [] :=
  fun _ _ => ⟨List.nodup_nil, fun _ inside => by cases inside⟩

/-- A step that leaves no problem has met its mark for the first time. -/
theorem meets_once (mark : DefinitionMark) (problem : DefinitionProblem) :
    Meets (once mark problem) [mark] := by
  intro before clean
  by_cases met : mark ∈ before.marks
  · -- The mark is reported.
    rw [once_of_met met] at clean
    cases clean
  · rw [once_of_new met]
    exact ⟨List.nodup_singleton mark, by simpa using met⟩

/-- Steps behind each other meet what each of them meets. -/
theorem Meets.bind {α β : Type} {step : StateM DefinitionFindings α}
    {next : α → StateM DefinitionFindings β} {marks more : List DefinitionMark}
    (first : Meets step marks) (rest : ∀ value, Meets (next value) more) (grows : Grows step)
    (growsRest : ∀ value, Grows (next value)) : Meets (step >>= next) (marks ++ more) := by
  intro before clean
  have restClean : (next (step before).1 (step before).2).2.problems = [] := clean
  -- The rest only adds problems, so the first step has left none either.
  have firstClean : (step before).2.problems = [] := by
    have kept := (growsRest (step before).1 (step before).2).2
    rw [restClean] at kept
    exact List.subset_nil.mp kept
  obtain ⟨distinct, met⟩ := first before firstClean
  obtain ⟨distinct', met'⟩ := rest _ _ restClean
  refine ⟨List.nodup_append'.mpr ⟨distinct, distinct', fun mark own other =>
    (met' mark other).1 (met mark own).2⟩, fun mark inside => ?_⟩
  rcases List.mem_append.mp inside with own | other
  · exact ⟨(met mark own).1, (growsRest _ _).1 (met mark own).2⟩
  · exact ⟨fun earlier => (met' mark other).1 ((grows before).1 earlier), (met' mark other).2⟩

/-- Steps that follow do not matter as long as they only add. -/
theorem Meets.before {step rest : DefinitionWalk} {marks : List DefinitionMark}
    (meets : Meets step marks) (grows : Grows step) (growsRest : Grows rest) :
    Meets (step >>= fun _ => rest) marks := by
  have both := meets.bind (fun _ => meets_nothing rest) grows fun _ => growsRest
  rwa [List.append_nil] at both

/-- Steps for the items of a list meet what each of them meets. So the marks of different items are
different. -/
theorem meets_forM {α : Type} {step : α → DefinitionWalk} {marks : α → List DefinitionMark}
    (items : List α) (each : ∀ item, Meets (step item) (marks item))
    (grows : ∀ item, Grows (step item)) : Meets (items.forM step) (items.flatMap marks) := by
  induction items with
  | nil => exact meets_nothing _
  | cons item items ih =>
    exact (each item).bind (fun _ => ih) (grows item) fun _ => grows_forM items grows

end DefinitionWalk

/-- The fields that a definition or an extension of a type writes, with the name of the type and the
types of the fields. -/
def Definition.writtenFields : Definition → List (String × String × TypeRef)
  | .type defined | .typeExtension defined =>
    defined.fieldTypes.map fun (field, written) => (defined.name, field, written)
  | _ => []

/-- The type that a definition defines. -/
def Definition.typeNames : Definition → List String
  | .type defined => [defined.name]
  | _ => []

/-- What a definition meets once: the name of its type, and those of the fields. -/
def Definition.marks (definition : Definition) : List DefinitionMark :=
  definition.typeNames.map .type
    ++ definition.writtenFields.map fun written => .field written.1 written.2.1

/-- A type meets its own name and then those of its fields. -/
theorem Definition.marks_type (defined : TypeDefinition) :
    (Definition.type defined).marks =
      [.type defined.name] ++ defined.fieldTypes.map fun field => .field defined.name field.1 := by
  simp [marks, typeNames, writtenFields, Function.comp_def]

/-- An extension meets the names of the fields that it adds. -/
theorem Definition.marks_typeExtension (added : TypeDefinition) :
    (Definition.typeExtension added).marks =
      added.fieldTypes.map fun field => .field added.name field.1 := by
  simp [marks, typeNames, writtenFields, Function.comp_def]

namespace DefinitionContext

open DefinitionWalk

variable (context : DefinitionContext)

/-- Meeting the members of a type meets its fields, each of them once. -/
theorem meets_memberNames (type : TypeDefinition) :
    Meets (memberNames type) (type.fieldTypes.map fun field => .field type.name field.1) := by
  unfold memberNames TypeDefinition.fieldTypes
  have eachOnce {α : Type} (fields : List α) (name : α → String) :
      Meets (fields.forM fun field =>
          once (.field type.name (name field)) (.repeatedField type.name (name field)))
        (fields.map fun field => .field type.name (name field)) := by
    rw [List.map_eq_flatMap]
    exact meets_forM fields (fun _ => meets_once _ _) fun _ => grows_once _ _
  -- Behind the fields their arguments are met.
  have fieldNames (fields : List FieldDefinition) :
      Meets (do
        fields.forM fun field =>
          once (.field type.name field.name) (.repeatedField type.name field.name)
        fields.forM fun field =>
          argumentDefinitions (type.name ++ "." ++ field.name) field.arguments)
        (fields.map fun field => .field type.name field.name) :=
    (eachOnce fields FieldDefinition.name).before (grows_forM _ fun _ => grows_once _ _)
      (grows_forM _ fun _ => grows_argumentDefinitions _ _)
  cases type.body with
  | object interfaces fields =>
    rw [List.map_map]
    exact fieldNames fields
  | interface interfaces fields =>
    rw [List.map_map]
    exact fieldNames fields
  | inputObject fields =>
    rw [List.map_map]
    exact eachOnce fields InputDefinition.name
  | scalar => exact meets_nothing _
  | union members => exact meets_nothing _
  | enum values => exact meets_nothing _

/-- The walk over a definition meets what the definition marks. -/
theorem meets_definition (definition : Definition) :
    Meets (context.definition definition) definition.marks := by
  cases definition with
  | type type =>
    -- What is walked behind the names of the members only adds.
    have rest : Grows (do
        context.singleDirectives (.typeDirective type.name) type.directives
        context.members false type) :=
      (context.grows_singleDirectives _ _).bind fun _ => context.grows_members false type
    rw [Definition.marks_type]
    exact (meets_once _ _).bind
      (fun _ => (meets_memberNames type).before (grows_memberNames type) rest) (grows_once _ _)
      fun _ => (grows_memberNames type).bind fun _ => rest
  | typeExtension type =>
    rw [Definition.marks_typeExtension]
    exact (meets_memberNames type).before (grows_memberNames type)
      ((context.grows_singleDirectives _ _).bind fun _ =>
        (context.grows_extended type).bind fun _ => context.grows_members true type)
  | operation operation => exact meets_nothing _
  | fragment fragment => exact meets_nothing _
  | schema block => exact meets_nothing _
  | schemaExtension block => exact meets_nothing _
  | directive directive => exact meets_nothing _

end DefinitionContext

namespace Document

open DefinitionWalk

/-- A document without problems writes no type and no field of a type twice. -/
theorem nodup_marks {document : Document} (clean : document.definitionProblems = []) :
    (document.definitions.flatMap Definition.marks).Nodup := by
  unfold definitionProblems at clean
  exact (meets_forM _ (DefinitionContext.meets_definition _) (DefinitionContext.grows_definition _)
    {} (List.reverse_eq_nil_iff.mp clean)).1

/-- A built-in type has the name that it is built in under. -/
theorem name_of_builtIn? {name : String} {type : TypeDefinition}
    (found : Schema.builtIn? name = some type) : type.name = name := by
  unfold Schema.builtIn? at found
  split at found
  · cases found
    rfl
  · simpa using List.find?_some found

/-- An extension does not rename the type. -/
theorem name_foldl_extend (extensions : List TypeDefinition) (type : TypeDefinition) :
    (extensions.foldl TypeDefinition.extend type).name = type.name := by
  induction extensions generalizing type with
  | nil => rfl
  | cons added rest ih => exact ih (type.extend added)

/-- The types that a document defines have the names of its type definitions. -/
theorem names_definedTypes (document : Document) :
    document.definedTypes.map TypeDefinition.name =
      document.definitions.flatMap Definition.typeNames := by
  unfold definedTypes
  rw [List.map_filterMap, List.filterMap_eq_flatMap_toList]
  refine List.flatMap_congr fun definition _ => ?_
  cases definition with
  | type type =>
    -- A built-in type takes the place of a definition of its name, and extensions keep the name.
    cases found : Schema.builtIn? type.name with
    | some builtIn => simp [found, name_of_builtIn? found, Definition.typeNames]
    | none => simp [found, name_foldl_extend, Definition.typeNames]
  | operation operation => rfl
  | fragment fragment => rfl
  | schema block => rfl
  | schemaExtension block => rfl
  | typeExtension type => rfl
  | directive directive => rfl

/-- The built-in types that are added have distinct names, and none of the defined ones. -/
theorem names_impliedTypes (types : List TypeDefinition) (directives : List DirectiveDefinition)
    (roots : List (OperationKind × String)) :
    ((impliedTypes types directives roots).map TypeDefinition.name).Nodup ∧
      ∀ type ∈ impliedTypes types directives roots, type.name ∉ types.map TypeDefinition.name := by
  unfold impliedTypes
  constructor
  · -- All built-in types have distinct names, and the added ones are some of them.
    have builtIn : (Schema.builtInScalarNames.map Schema.builtInScalar
        ++ Schema.introspectionTypes).map TypeDefinition.name |>.Nodup := by decide
    refine builtIn.sublist (List.Sublist.map _ (List.filter_sublist.trans ?_))
    exact (List.filter_sublist.map _).append_right _
  · intro type inside named
    obtain ⟨other, member, same⟩ := List.mem_map.mp named
    have absent := (List.mem_filter.mp inside).2
    simp only [Bool.not_eq_true', List.any_eq_false, beq_iff_eq] at absent
    exact absent other member same

/-- A schema that can be resolved has no problem in any of its types, which are looked at last. -/
theorem typeProblem_of_resolved {schema : Schema} (resolved : schema.resolutionProblem? = none)
    {type : TypeDefinition} (inside : type ∈ schema.types) : schema.typeProblem type = none := by
  unfold Schema.resolutionProblem? at resolved
  split at resolved
  · cases resolved
  · split at resolved
    · cases resolved
    · exact List.findSome?_eq_none_iff.mp resolved type inside

/-- A schema that can be resolved has object types as the members of its unions. -/
theorem membersAreObjects_of_resolved {schema : Schema}
    (resolved : schema.resolutionProblem? = none) {type : TypeDefinition}
    (inside : type ∈ schema.types) {members : List String} (body : type.body = .union members)
    {member : String} (listed : member ∈ members) : schema.kind? member = some .object := by
  have none := typeProblem_of_resolved resolved inside
  simp only [Schema.typeProblem, body, ite_eq_left_iff, reduceCtorEq, imp_false, not_not] at none
  simpa using List.all_eq_true.mp none member listed

/-- A schema that can be resolved has fields of types that a field can have. -/
theorem isOutput_of_resolved {schema : Schema} (resolved : schema.resolutionProblem? = none)
    {type : TypeDefinition} (inside : type ∈ schema.types) {field : FieldDefinition}
    (listed : field ∈ type.fields) :
    (schema.kind? field.type.base).any TypeKind.isOutput = true := by
  have clean := typeProblem_of_resolved resolved inside
  unfold Schema.typeProblem at clean
  unfold TypeDefinition.fields at listed
  -- Object types and interfaces have fields, and problems are looked for in both alike.
  have search : ∀ {interfaces : List String} {fields : List FieldDefinition},
      (if interfaces.all fun name => schema.kind? name == some .interface then
        (fields.findSome? schema.fieldProblem).map (ResolutionProblem.fieldsOf type.name)
      else some (ResolutionProblem.interfacesOf type.name)) = none →
      field ∈ fields → schema.fieldProblem field = none := by
    intro interfaces fields clean inFields
    split at clean
    · exact List.findSome?_eq_none_iff.mp (Option.map_eq_none_iff.mp clean) field inFields
    · cases clean
  have noProblem : schema.fieldProblem field = none := by
    cases body : type.body with
    | object interfaces fields =>
      rw [body] at clean listed
      exact search clean listed
    | interface interfaces fields =>
      rw [body] at clean listed
      exact search clean listed
    | scalar => simp [body] at listed
    | union members => simp [body] at listed
    | enum values => simp [body] at listed
    | inputObject fields => simp [body] at listed
  unfold Schema.fieldProblem at noProblem
  split at noProblem
  · cases noProblem
  · cases noProblem
  · simpa using noProblem

/-! ### Input fields -/

/-- The search for problems looks at each input field that its bound lets it come to. -/
theorem isInput_of_inputProblem {schema : Schema} {bound : Nat} {fields : List InputDefinition}
    (enough : fields.length < bound) (none : schema.inputProblem bound fields = none)
    {field : InputDefinition} (listed : field ∈ fields) :
    (schema.kind? field.type.base).any TypeKind.isInput = true := by
  induction fields generalizing bound with
  | nil => cases listed
  | cons first rest ih =>
    rw [List.length_cons] at enough
    -- The list and its first field take one step of the bound each.
    obtain ⟨bound, rfl⟩ : ∃ n, bound = n + 2 := ⟨bound - 2, by omega⟩
    rw [Schema.inputProblem] at none
    split at none
    · cases none
    · next ownNone =>
      rcases List.mem_cons.mp listed with rfl | listed
      · rw [Schema.inputDefinitionProblem] at ownNone
        split at ownNone
        · cases ownNone
        · cases ownNone
        · simpa using ownNone
      · exact ih (by omega) none listed

/-- A count of inputs that adds two for each is at least their number. -/
private theorem length_le_foldl (size : InputDefinition → Nat) (inputs : List InputDefinition)
    (start : Nat) :
    start + inputs.length ≤ inputs.foldl (fun bound input => bound + size input + 2) start := by
  induction inputs generalizing start with
  | nil => exact Nat.le_refl _
  | cons input rest ih =>
    have step := ih (start + size input + 2)
    rw [List.foldl_cons, List.length_cons]
    omega

/-- The bound of the search exceeds the number of input fields of any type. -/
theorem length_lt_defaultBound {schema : Schema} {type : TypeDefinition}
    (inside : type ∈ schema.types) : type.inputFields.length < schema.defaultBound := by
  have own : type.inputs.Sublist (schema.types.flatMap TypeDefinition.inputs) :=
    List.sublist_flatten_of_mem (List.mem_map_of_mem inside)
  have fewer : type.inputFields.length ≤ type.inputs.length := by simp [TypeDefinition.inputs]
  have each := own.length_le
  have all := length_le_foldl
    (fun input => input.type.weight + (input.defaultValue.map Value.weight).getD 0)
    (schema.types.flatMap TypeDefinition.inputs) 16
  simp only [← Nat.add_assoc] at all
  unfold Schema.defaultBound
  omega

/-- A schema that can be resolved has input fields of types that a caller can give. -/
theorem isInput_of_resolved {schema : Schema} (resolved : schema.resolutionProblem? = none)
    {type : TypeDefinition} (inside : type ∈ schema.types) {field : InputDefinition}
    (listed : field ∈ type.inputFields) :
    (schema.kind? field.type.base).any TypeKind.isInput = true := by
  have none := typeProblem_of_resolved resolved inside
  have enough := length_lt_defaultBound inside
  unfold TypeDefinition.inputFields at listed enough
  split at listed
  · next body =>
    simp only [Schema.typeProblem, body, Option.map_eq_none_iff] at none enough
    exact isInput_of_inputProblem enough none listed
  · cases listed

/-! ### Built schemas -/

/-- A document without problems defines types of distinct names. -/
theorem nodup_definedTypes {document : Document} (clean : document.definitionProblems = []) :
    (document.definedTypes.map TypeDefinition.name).Nodup := by
  rw [names_definedTypes]
  refine List.Nodup.of_map DefinitionMark.type ((nodup_marks clean).sublist ?_)
  rw [List.map_flatMap]
  exact List.Sublist.flatMap_right _ fun _ _ => List.sublist_append_left _ _

/-- A schema that is built has the types that its document defines, then built-in types, and it can
be resolved. -/
theorem of_toSchema {document : Document} {schema : Schema}
    (built : document.toSchema = .ok schema) :
    document.definitionProblems = [] ∧ schema.resolutionProblem? = none ∧
      ∃ directives roots,
        schema.types = document.definedTypes ++ impliedTypes document.definedTypes directives
          roots := by
  unfold toSchema at built
  by_cases clean : document.definitionProblems.isEmpty
  · simp only [clean, Bool.not_true, Bool.false_eq_true, if_false] at built
    split at built
    · cases built
    · next resolved =>
      cases built
      exact ⟨List.isEmpty_iff.mp clean, resolved, _, _, rfl⟩
  · simp only [clean, Bool.not_false, if_true] at built
    cases built

/-- The input fields of a schema that is built have types that a caller can give. -/
theorem isInput_of_toSchema {document : Document} {schema : Schema}
    (built : document.toSchema = .ok schema) {type : TypeDefinition} (inside : type ∈ schema.types)
    {field : InputDefinition} (listed : field ∈ type.inputFields) :
    (schema.kind? field.type.base).any TypeKind.isInput = true :=
  isInput_of_resolved (of_toSchema built).2.1 inside listed

/-- A document that describes a schema describes a well-formed one. -/
theorem wellFormed_of_toSchema {document : Document} {schema : Schema}
    (built : document.toSchema = .ok schema) : schema.WellFormed := by
  obtain ⟨clean, resolved, directives, roots, types⟩ := of_toSchema built
  constructor
  · -- The defined types and those that are added are distinct among themselves and apart.
    rw [types, List.map_append, List.nodup_append']
    obtain ⟨implied, fresh⟩ := names_impliedTypes document.definedTypes directives roots
    refine ⟨nodup_definedTypes clean, implied, fun name own added => ?_⟩
    obtain ⟨type, inside, rfl⟩ := List.mem_map.mp added
    exact fresh type inside own
  · intro type inside members body member listed
    exact membersAreObjects_of_resolved resolved inside body listed

/-- The types that are added to those of a document are built-in scalars and types that describe
schemas. -/
theorem mem_builtIn_of_mem_impliedTypes {types : List TypeDefinition}
    {directives : List DirectiveDefinition} {roots : List (OperationKind × String)}
    {type : TypeDefinition} (implied : type ∈ impliedTypes types directives roots) :
    type ∈ Schema.builtInScalarNames.map Schema.builtInScalar ++ Schema.introspectionTypes := by
  refine List.mem_append.mpr ((List.mem_append.mp (List.mem_of_mem_filter implied)).imp_left ?_)
  exact fun scalar => List.map_subset _ (List.filter_subset_self _) scalar

/-- The types of a schema that is built are own types, built-in scalars, and types that describe
schemas. -/
theorem builtIn?_or_mem_of_toSchema {document : Document} {schema : Schema}
    (built : document.toSchema = .ok schema) {type : TypeDefinition}
    (inside : type ∈ schema.types) :
    Schema.builtIn? type.name = none ∨
      type ∈ Schema.builtInScalarNames.map Schema.builtInScalar ++ Schema.introspectionTypes := by
  obtain ⟨-, -, directives, roots, types⟩ := of_toSchema built
  rw [types] at inside
  rcases List.mem_append.mp inside with defined | implied
  · obtain ⟨definition, -, same⟩ := List.mem_filterMap.mp defined
    split at same
    · split at same
      -- A definition with the name of a built-in type is replaced by that type.
      · next found =>
        cases same
        unfold Schema.builtIn? at found
        split at found
        · next scalar =>
          cases found
          have isName := List.contains_iff_mem.mp scalar
          exact .inr (List.mem_append_left _ (List.mem_map_of_mem isName))
        · exact .inr (List.mem_append_right _ (List.mem_of_find?_eq_some found))
      · next own =>
        cases same
        exact .inl (by rwa [name_foldl_extend])
    · cases same
  · exact .inr (mem_builtIn_of_mem_impliedTypes implied)

/-- The input objects of a schema that is built are those of its document. -/
theorem builtIn?_of_inputObject {document : Document} {schema : Schema}
    (built : document.toSchema = .ok schema) {type : TypeDefinition}
    (inside : type ∈ schema.types) (kind : type.kind = .inputObject) :
    Schema.builtIn? type.name = none := by
  have none : ∀ type ∈ Schema.builtInScalarNames.map Schema.builtInScalar
      ++ Schema.introspectionTypes, type.kind ≠ .inputObject := by decide
  exact (builtIn?_or_mem_of_toSchema built inside).resolve_right fun builtIn =>
    none type builtIn kind

end Document

end SelectionTypes
