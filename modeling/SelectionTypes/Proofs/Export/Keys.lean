import SelectionTypes.Proofs.Export.Declaration
import SelectionTypes.Proofs.Export.Origins
import SelectionTypes.Proofs.Selection.Lookup
import SelectionTypes.Proofs.Selection.PropertyNames

/-!
# `SelectionTypes.Proofs.Export.Keys`: the keys that an alias has

Fields of one key are one property. If one of them is exported, then the type of the property is the
alias of the first exported one, and nothing is read below the fields. `SelectionScope.Reads` gives
the object types that selections are read on, with their fields, and `AliasHas` the keys of an alias
under given declarations.

`Reads.keepsKeys` is the main result. An alias is declared for the sub-selections of each field that
is exported under its name, so it has the keys that these fields select. It need not have those that
the other fields of the key select.
-/

set_option autoImplicit false

namespace SelectionTypes

open Outcome
open TypeScript (TypeExpr Declaration Property)
open Selection (Collects FieldsAgree WrittenIn WrittenFor Origins Includes)
open SelectionScope (typenameField Inner)

/-! ### The first exported field -/

namespace FieldHead

/-- A field that gives a name for export is exported. -/
theorem isExported_of_exportName {head : FieldHead} {name : String}
    (isName : head.exportName = .ok name) : head.isExported = true := by
  unfold exportName at isName
  unfold isExported
  cases given : head.exportDirective? with
  | none =>
    rw [given] at isName
    cases isName
  | some directive => rfl

end FieldHead

namespace SelectedField

/-- Among fields with an exported one the reference is that of the first exported one. -/
theorem firstExport?_of_find? {schema : Schema} {type : TypeRef} {fields : List SelectedField}
    {found : Option TypeExpr} (succeeds : firstExport? schema type fields = .ok found)
    {first : SelectedField}
    (isFirst : fields.find? (fun field => field.head.isExported) = some first) :
    ∃ name, first.head.exportName = .ok name ∧ found = some (.marked type (.aliasRef name)) := by
  have exported := List.find?_some isFirst
  rw [firstExport?_eq_of_find? isFirst, FieldHead.exportRef?_eq_ok] at succeeds
  obtain ⟨plain, -⟩ | ⟨-, -, reference⟩ := succeeds
  · rw [plain] at exported
    cases exported
  · exact reference

end SelectedField

/-! ### Keys of shapes -/

namespace SelectionScope

variable {scope : SelectionScope} {inner : Inner} {concrete : String} {fields : List SelectedField}

/-- A shape has the keys of its fields. -/
theorem mem_keys_of_objectShape {shape : TypeExpr}
    (succeeds : scope.objectShape inner concrete fields = .ok shape) :
    ∃ properties, shape = .object properties ∧
      ∀ field ∈ fields, field.key ∈ properties.map fun property => property.1.name := by
  obtain ⟨own, each, rfl⟩ := objectShape_eq_ok.mp succeeds
  refine ⟨_, rfl, fun field listed => ?_⟩
  have isName : field.key ∈ namesOf own := by
    rw [namesOf_groups each, List.mem_eraseDups]
    exact List.mem_map_of_mem listed
  unfold withTypename
  split
  · exact List.mem_cons_of_mem _ isName
  · exact isName

/-- The shape of selections on an object type is that of the fields that they select on it. -/
theorem collects_of_shapeOf (wellFormed : scope.schema.WellFormed)
    (object : scope.schema.kind? concrete = some .object) {selections : List Selection}
    {shape : TypeExpr} (succeeds : scope.shapeOf concrete selections = .ok shape) :
    ∃ fields, Selection.flatten scope.schema scope.fragments concrete selections
        = .ok [(concrete, fields)] ∧
      Collects scope.schema scope.fragments concrete selections fields ∧
      scope.objectShape (scope.typeWithin (scope.depthBound selections)) concrete fields
        = .ok shape := by
  unfold shapeOf at succeeds
  obtain ⟨flattened, flattens, isShape⟩ := bind_eq_ok.mp succeeds
  obtain ⟨own, reads, rfl⟩ := (Selection.flatten_object_eq_ok object).mp flattens
  obtain ⟨-, -, collects⟩ :=
    Selection.collects_of_mem_flatten wellFormed flattens (List.mem_singleton_self _)
  rw [List.lookup_cons_self, Option.getD_some] at isShape
  exact ⟨_, flattens, collects, isShape⟩

end SelectionScope

/-! ### Keys of aliases -/

/-- The keys that an alias has for values of an object type: those of the shapes in its declaration,
and where that refers to one alias for each object type those of the alias for this one. -/
inductive AliasHas (declares : Declaration → Prop) (concrete key : String) : String → Prop
  | shape {name : String} {shapes : List TypeExpr} {properties : List Property}
      (declared : declares (.intersection name shapes)) (listed : .object properties ∈ shapes)
      (inside : key ∈ properties.map fun property => property.1.name) :
      AliasHas declares concrete key name
  | implementor {name : String} {shapes : List TypeExpr} {names : List String}
      (declared : declares (.intersection name shapes)) (listed : .aliasRefs names ∈ shapes)
      (inside : ExportedAlias.implementorName name concrete ∈ names)
      (has : AliasHas declares concrete key (ExportedAlias.implementorName name concrete)) :
      AliasHas declares concrete key name

namespace ExportedAlias

variable {scope : SelectionScope} {static value : String} {field : SelectedField}
variable {aliases : List ExportedAlias} {declared : List Declaration}
variable {declares : Declaration → Prop}

/-- An alias for an object type has the keys that its field selects on the type. -/
theorem keys_of_shape (wellFormed : scope.schema.WellFormed) {exported : ExportedAlias}
    (object : scope.schema.kind? exported.type = some .object) {shape : TypeExpr}
    (isShape : exported.shape scope = .ok shape) :
    ∃ selected properties, Collects scope.schema scope.fragments exported.type
        exported.field.selections selected ∧ shape = .object properties ∧
      ∀ below ∈ selected, below.key ∈ properties.map fun property => property.1.name := by
  obtain ⟨selected, -, collects, isShape⟩ :=
    SelectionScope.collects_of_shapeOf wellFormed object (shapeOf_of_shape object isShape)
  obtain ⟨properties, rfl, keys⟩ := SelectionScope.mem_keys_of_objectShape isShape
  exact ⟨selected, properties, collects, rfl, keys⟩

/-- What an exported field is declared with: its alias has the keys that the field selects on each
object type of its values. -/
theorem aliasHas_of_aliasesOf (wellFormed : scope.schema.WellFormed)
    (made : AliasesOf scope.schema static field aliases)
    (shapes : ∀ exported ∈ aliases, ∃ shape shapes, exported.shape scope = .ok shape ∧
      shape ∈ shapes ∧ declares (.intersection exported.name shapes)) :
    ∃ name type, field.head.exportName = .ok name ∧
      fieldType? scope.schema static field.head.name = some type ∧
      (∃ types, scope.schema.concreteTypes type.base = .ok types) ∧
      ∀ value, scope.schema.kind? value = some .object → scope.schema.Admits type.base value →
        ∃ selected, Collects scope.schema scope.fragments value field.selections selected ∧
          ∀ below ∈ selected, AliasHas declares value below.key name := by
  obtain ⟨type, known, made⟩ := made
  obtain ⟨name, definition, isName, -, isType, exportable, rfl⟩ := ofField_eq_ok made
  refine ⟨name, type, isName, known,
    Schema.exists_concreteTypes_of_isExportable isType exportable, fun value object admits => ?_⟩
  rw [List.forall_mem_cons] at shapes
  obtain ⟨⟨shape, written, isShape, listed, isDeclared⟩, implementors⟩ := shapes
  rcases admits with rfl | ⟨abstract, isAbstract, -, possible⟩
  · obtain ⟨selected, properties, collects, rfl, keys⟩ := keys_of_shape wellFormed object isShape
    exact ⟨selected, collects, fun below inside => .shape isDeclared listed (keys below inside)⟩
  · cases isType.symm.trans isAbstract
    have interface : definition.kind = .interface := by
      refine (Schema.isExportable_iff.mp exportable).resolve_left fun object => ?_
      rw [Schema.possibleTypes, Schema.body_of_kind_object object] at possible
      cases possible
    simp only [interface, beq_self_eq_true, if_true, List.forall_mem_map] at implementors
    obtain ⟨own, written', isOwn, listed', isDeclared'⟩ := implementors value possible
    obtain ⟨selected, properties, collects, rfl, keys⟩ := keys_of_shape wellFormed object isOwn
    -- The alias of the interface refers to that of the object type.
    have refers : shape = .aliasRefs
        ((scope.schema.possibleTypes definition).map (implementorName name)) := by
      obtain ⟨definition', found, ⟨-, same⟩ | ⟨kind, -⟩⟩ := shape_eq_ok.mp isShape
      · cases isType.symm.trans found
        exact same
      · cases isType.symm.trans found
        cases interface.symm.trans kind
    subst refers
    refine ⟨selected, collects, fun below inside => ?_⟩
    exact .implementor isDeclared listed (List.mem_map_of_mem possible)
      (.shape isDeclared' listed' (keys below inside))

end ExportedAlias

/-! ### Where selections are read -/

namespace SelectionScope

variable (scope : SelectionScope)

/-- The declarations for the exports of selections. -/
def ExportsDeclared (parent : String) (selections : List Selection) (declared : List Declaration) :
    Prop :=
  ∃ aliases, ExportedAlias.collect scope.schema parent selections = .ok aliases ∧
    ExportedAlias.declare scope aliases = .ok declared

/-- A declaration for an export of selections or of the fragments that they include. -/
def Emits (parent : String) (selections : List Selection) (declaration : Declaration) : Prop :=
  ∃ static inner declared, Includes scope.schema scope.fragments parent selections static inner ∧
    scope.ExportsDeclared static inner declared ∧ declaration ∈ declared

/-- The object types that selections are read on, each with the fields that are read on it: those of
the selections, those below fields of one key without an export, and those of aliases. -/
inductive Reads (parent : String) (selections : List Selection) :
    String → List SelectedField → Prop
  | top {flattened : List (String × List SelectedField)} {concrete : String}
      {fields : List SelectedField}
      (flattens : Selection.flatten scope.schema scope.fragments parent selections = .ok flattened)
      (listed : (concrete, fields) ∈ flattened) : Reads parent selections concrete fields
  | deeper {above concrete : String} {fields below : List SelectedField}
      {group : SelectedField × List SelectedField} {type : TypeRef}
      {flattened : List (String × List SelectedField)}
    (reads : Reads parent selections above fields)
      (grouped : group ∈ SelectedField.groups fields)
      (plain : ∀ field ∈ SelectedField.members group, field.head.isExported = false)
      (known : ExportedAlias.fieldType? scope.schema above group.1.head.name = some type)
      (noLeaf : scope.schema.isLeaf type.base = false)
      (flattens : Selection.flatten scope.schema scope.fragments type.base
        ((SelectedField.members group).flatMap SelectedField.selections) = .ok flattened)
      (listed : (concrete, below) ∈ flattened) : Reads parent selections concrete below
  | ofAlias {static : String} {inner : List Selection} {aliases : List ExportedAlias}
      {exported : ExportedAlias} {fields : List SelectedField}
      (includes : Includes scope.schema scope.fragments parent selections static inner)
      (collects : ExportedAlias.collect scope.schema static inner = .ok aliases)
      (listed : exported ∈ aliases)
      (flattens : Selection.flatten scope.schema scope.fragments exported.type
        exported.field.selections = .ok [(exported.type, fields)])
      (object : scope.schema.kind? exported.type = some .object) :
      Reads parent selections exported.type fields

variable {scope} {parent : String} {selections : List Selection}

/-- What is known where an object type is read: its shape is made, and its fields agree and are
written on types that admit it. -/
structure ReadHere (scope : SelectionScope) (parent : String) (selections : List Selection)
    (concrete : String) (fields : List SelectedField) : Prop where
  object : scope.schema.kind? concrete = some .object
  made : ∃ bound shape, scope.objectShape (scope.typeWithin bound) concrete fields = .ok shape
  agree : ∃ above, FieldsAgree scope.fragments above ∧
    ∀ field ∈ fields, Selection.Selects scope.fragments above field
  written : ∀ field ∈ fields, WrittenFor scope.schema
    (Includes scope.schema scope.fragments parent selections) concrete
      (.field field.head field.selections)

/-- Fields of one key where an object type is read select the same field. -/
theorem ReadHere.name_eq {concrete : String} {fields : List SelectedField}
    (here : scope.ReadHere parent selections concrete fields)
    {group : SelectedField × List SelectedField} (grouped : group ∈ SelectedField.groups fields)
    {field : SelectedField} (member : field ∈ SelectedField.members group) :
    field.head.name = group.1.head.name := by
  obtain ⟨above, agree, selects⟩ := here.agree
  exact (agree.of_group selects grouped).1 field member

/-- The type of the fields of one key is made where an object type is read. -/
theorem ReadHere.exists_groupType {concrete : String} {fields : List SelectedField}
    (here : scope.ReadHere parent selections concrete fields)
    (valid : scope.schema.typeProblems = []) {group : SelectedField × List SelectedField}
    (grouped : group ∈ SelectedField.groups fields) {type : TypeRef}
    (known : ExportedAlias.fieldType? scope.schema concrete group.1.head.name = some type) :
    ∃ bound expression, scope.groupType (scope.typeWithin bound) type
      (SelectedField.members group) = .ok expression := by
  obtain ⟨bound, shape, isShape⟩ := here.made
  obtain ⟨properties, each, -⟩ := objectShape_eq_ok.mp isShape
  obtain ⟨property, -, isProperty⟩ := Lists.exists_of_mem_left each grouped
  obtain ⟨-, type', known', isType, -⟩ := (property_eq_ok isProperty).resolve_left
    fun typename => Selection.name_ne_typename valid known typename.1
  cases known.symm.trans known'
  exact ⟨bound, property.2, isType⟩

/-- An entry of flattened selections that are written on types that admit those of their values. -/
theorem readHere_of_entry (wellFormed : scope.schema.WellFormed)
    (origins : Origins scope.schema scope.fragments
      (Includes scope.schema scope.fragments parent selections))
    {above concrete : String} {inner : List Selection} {fields : List SelectedField}
    {flattened : List (String × List SelectedField)}
    (flattens : Selection.flatten scope.schema scope.fragments above inner = .ok flattened)
    (listed : (concrete, fields) ∈ flattened) (agree : FieldsAgree scope.fragments inner)
    (written : ∀ types, scope.schema.concreteTypes above = .ok types → ∀ value ∈ types,
      ∀ selection ∈ inner, WrittenFor scope.schema
        (Includes scope.schema scope.fragments parent selections) value selection)
    (made : ∃ bound type, scope.typeWithin bound above inner = .ok type) :
    scope.ReadHere parent selections concrete fields := by
  obtain ⟨object, ⟨types, isTypes, isType⟩, collects⟩ :=
    Selection.collects_of_mem_flatten wellFormed flattens listed
  refine ⟨object, ?_, ⟨inner, agree, collects.selects⟩,
    Selection.writtenFor_of_collects origins collects (written types isTypes concrete isType)⟩
  -- The type of all selections is made of the shapes of the entries, so this entry has one.
  obtain ⟨bound, type, succeeds⟩ := made
  cases bound with
  | zero => cases succeeds
  | succ bound =>
    obtain ⟨flattened', shapes, flattens', each, -⟩ := typeWithin_eq_ok.mp succeeds
    cases flattens.symm.trans flattens'
    obtain ⟨shape, -, isShape⟩ := Lists.exists_of_mem_left each listed
    exact ⟨bound, shape, isShape⟩

/-- An alias that is declared for included selections belongs to a field that is written in them. -/
theorem readHere_of_alias (wellFormed : scope.schema.WellFormed)
    (origins : Origins scope.schema scope.fragments
      (Includes scope.schema scope.fragments parent selections))
    (agree : FieldsAgree scope.fragments selections) {static : String} {inner : List Selection}
    (includes : Includes scope.schema scope.fragments parent selections static inner)
    {aliases : List ExportedAlias}
    (collects : ExportedAlias.collect scope.schema static inner = .ok aliases)
    {exported : ExportedAlias} (listed : exported ∈ aliases)
    (object : scope.schema.kind? exported.type = some .object)
    (shaped : ∃ shape, exported.shape scope = .ok shape) {fields : List SelectedField}
    (flattens : Selection.flatten scope.schema scope.fragments exported.type
      exported.field.selections = .ok [(exported.type, fields)]) :
    scope.ReadHere parent selections exported.type fields := by
  obtain ⟨shape, isShape⟩ := shaped
  obtain ⟨fields', flattens', collected, made⟩ :=
    collects_of_shapeOf wellFormed object (ExportedAlias.shapeOf_of_shape object isShape)
  -- Flattening has one outcome, so these are the fields that the shape of the alias is made of.
  cases flattens.symm.trans flattens'
  obtain earlier | ⟨place, field, own, stands, ofField, isOwn⟩ :=
    (ExportedAlias.gathers_of_collect collects).exists_field listed
  · cases earlier
  · obtain ⟨type, known, noLeaf, admits⟩ := ExportedAlias.admits_of_mem_aliases ofField isOwn
    -- The field of the alias is written where it stands, and so is what it selects.
    have written : Selection.WrittenIn scope.schema
        (Includes scope.schema scope.fragments parent selections) place
          (.field field.head field.selections) := ⟨static, inner, includes, stands⟩
    rw [(ofField.of_mem isOwn).1] at collected made
    refine ⟨object, ⟨_, shape, made⟩, ⟨_, agree.of_writtenIn written, collected.selects⟩, ?_⟩
    exact Selection.writtenFor_of_collects origins collected fun selection inside =>
      ⟨type.base, written.below known noLeaf inside, admits⟩

/-- What is known of each place where selections are read whose type is made and whose exports are
declared. -/
theorem Reads.here (wellFormed : scope.schema.WellFormed) (valid : scope.schema.typeProblems = [])
    (origins : Origins scope.schema scope.fragments
      (Includes scope.schema scope.fragments parent selections))
    (agree : FieldsAgree scope.fragments selections)
    (typed : ∃ type, scope.typeOf parent selections = .ok type)
    (declares : ∀ static inner,
      Includes scope.schema scope.fragments parent selections static inner →
        ∃ declared, scope.ExportsDeclared static inner declared)
    {concrete : String} {fields : List SelectedField}
    (reads : scope.Reads parent selections concrete fields) :
    scope.ReadHere parent selections concrete fields := by
  induction reads with
  | top flattens listed =>
    obtain ⟨type, isType⟩ := typed
    refine readHere_of_entry wellFormed origins flattens listed agree
      (fun types isTypes value isValue selection inside => ?_) ⟨_, type, isType⟩
    exact ⟨parent, ⟨parent, selections, .own, .here inside⟩,
      Schema.admits_of_mem_concreteTypes isTypes isValue⟩
  | @deeper above concrete fields below group type flattened _ grouped plain known noLeaf flattens
      listed ih =>
    obtain ⟨outer, agreeOuter, selects⟩ := ih.agree
    obtain ⟨names, agreeBelow⟩ := agreeOuter.of_group selects grouped
    have written := fun field member =>
      ih.written field (SelectedField.mem_of_mem_groups grouped member).1
    refine readHere_of_entry wellFormed origins flattens listed agreeBelow (fun types isTypes =>
      origins.writtenFor_flatMap wellFormed valid ih.object written names known noLeaf isTypes) ?_
    -- The group has no export and is no leaf, so its type is made from what is below.
    obtain ⟨bound, expression, isType⟩ := ih.exists_groupType valid grouped known
    rcases groupType_eq_ok isType with ⟨-, field, member, name, isName, -⟩ | ⟨leaf, -⟩ |
      ⟨-, body, isBody, -⟩
    · have exported := FieldHead.isExported_of_exportName isName
      rw [plain field member] at exported
      cases exported
    · rw [noLeaf] at leaf
      cases leaf
    · exact ⟨bound, body, isBody⟩
  | ofAlias includes collects listed flattens object =>
    obtain ⟨declared, aliases', collects', declare⟩ := declares _ _ includes
    cases collects.symm.trans collects'
    obtain ⟨shape, -, isShape, -⟩ := ExportedAlias.exists_shape_of_declare declare listed
    exact readHere_of_alias wellFormed origins agree includes collects listed object
      ⟨shape, isShape⟩ flattens

/-! ### Keys that are kept -/

/-- The aliases of an exported field are declared where its selections are. -/
theorem exists_emitted
    (declares : ∀ static inner,
      Includes scope.schema scope.fragments parent selections static inner →
        ∃ declared, scope.ExportsDeclared static inner declared)
    {static : String} {field : SelectedField} (exported : field.head.isExported = true)
    (written : WrittenIn scope.schema (Includes scope.schema scope.fragments parent selections)
      static (.field field.head field.selections)) :
    ∃ own, ExportedAlias.AliasesOf scope.schema static field own ∧ ∀ added ∈ own,
      ∃ shape shapes, added.shape scope = .ok shape ∧ shape ∈ shapes ∧
        scope.Emits parent selections (.intersection added.name shapes) := by
  obtain ⟨above, inner, includes, stands⟩ := written
  obtain ⟨declared, aliases, collects, declare⟩ := declares above inner includes
  obtain ⟨own, ofField, contained⟩ :=
    (ExportedAlias.gathers_of_collect collects).aliases_subset stands exported
  refine ⟨own, ofField, fun added listed => ?_⟩
  obtain ⟨shape, shapes, isShape, inside, isDeclared⟩ :=
    ExportedAlias.exists_shape_of_declare declare (contained listed)
  exact ⟨shape, shapes, isShape, inside, above, inner, declared, includes,
    ⟨aliases, collects, declare⟩, isDeclared⟩

/-- An exported field that is written on a type that admits an object type has an alias, with the
keys that its sub-selections select on the types of its values. -/
theorem aliasHas_of_writtenFor (wellFormed : scope.schema.WellFormed)
    (valid : scope.schema.typeProblems = [])
    (declares : ∀ static inner,
      Includes scope.schema scope.fragments parent selections static inner →
        ∃ declared, scope.ExportsDeclared static inner declared)
    {concrete : String} (object : scope.schema.kind? concrete = some .object)
    {field : SelectedField} (exported : field.head.isExported = true)
    (stands : WrittenFor scope.schema (Includes scope.schema scope.fragments parent selections)
      concrete (.field field.head field.selections)) :
    ∃ name type types, field.head.exportName = .ok name ∧
      ExportedAlias.fieldType? scope.schema concrete field.head.name = some type ∧
      scope.schema.concreteTypes type.base = .ok types ∧ ∀ value ∈ types,
        ∃ selected, Collects scope.schema scope.fragments value field.selections selected ∧
          ∀ below ∈ selected, AliasHas (scope.Emits parent selections) value below.key name := by
  obtain ⟨static, written, admits⟩ := stands
  obtain ⟨own, ofField, emitted⟩ := exists_emitted declares exported written
  obtain ⟨name, expected, isName, onStatic, values, keys⟩ :=
    ExportedAlias.aliasHas_of_aliasesOf wellFormed ofField emitted
  -- The field is one of the object type, with values that the written type admits.
  obtain ⟨type, known, -⟩ := wellFormed.exists_narrower valid object admits onStatic
  obtain ⟨types, isTypes⟩ :=
    wellFormed.exists_concreteTypes valid object admits onStatic known values
  refine ⟨name, type, types, isName, known, isTypes, fun value isValue => ?_⟩
  exact keys value (wellFormed.kind?_of_mem_concreteTypes isTypes isValue)
    ((wellFormed.covariant valid object admits onStatic known).2 types isTypes value isValue)

/-- The property of fields of one key with a first exported one: its type is the alias of that one.
For each type of its values the alias has the keys that the fields exported under its name select,
and so those of all fields if the others have no sub-selections. -/
def KeepsKeys (scope : SelectionScope) (declares : Declaration → Prop) (concrete : String)
    (group : SelectedField × List SelectedField) (first : SelectedField) : Prop :=
  ∃ type name types,
    ExportedAlias.fieldType? scope.schema concrete group.1.head.name = some type ∧
    first.head.exportName = .ok name ∧
    (∀ inner, scope.property inner concrete group =
      .ok (scope.propertyHead group.1.key type, .marked type (.aliasRef name))) ∧
    scope.schema.concreteTypes type.base = .ok types ∧ ∀ value ∈ types,
      (∀ member ∈ SelectedField.members group, member.head.exportName = .ok name →
        ∃ selected, Collects scope.schema scope.fragments value member.selections selected ∧
          ∀ below ∈ selected, AliasHas declares value below.key name) ∧
      ((∀ member ∈ SelectedField.members group,
          member.head.exportName = .ok name ∨ member.selections = []) →
        ∃ selected, Collects scope.schema scope.fragments value
            ((SelectedField.members group).flatMap SelectedField.selections) selected ∧
          ∀ below ∈ selected, AliasHas declares value below.key name)

/-- Wherever selections are read, the keys of exported fields are kept. -/
theorem Reads.keepsKeys (wellFormed : scope.schema.WellFormed)
    (valid : scope.schema.typeProblems = [])
    (origins : Origins scope.schema scope.fragments
      (Includes scope.schema scope.fragments parent selections))
    (agree : FieldsAgree scope.fragments selections)
    (typed : ∃ type, scope.typeOf parent selections = .ok type)
    (declares : ∀ static inner,
      Includes scope.schema scope.fragments parent selections static inner →
        ∃ declared, scope.ExportsDeclared static inner declared)
    {concrete : String} {fields : List SelectedField}
    (reads : scope.Reads parent selections concrete fields)
    {group : SelectedField × List SelectedField} (grouped : group ∈ SelectedField.groups fields)
    {first : SelectedField} (isFirst : (SelectedField.members group).find?
      (fun field => field.head.isExported) = some first) :
    scope.KeepsKeys (scope.Emits parent selections) concrete group first := by
  have here := reads.here wellFormed valid origins agree typed declares
  -- Each exported member of the group has an alias of its own, with the keys below it.
  have aliasOf : ∀ member ∈ SelectedField.members group, member.head.isExported = true →
      ∃ name type types, member.head.exportName = .ok name ∧
        ExportedAlias.fieldType? scope.schema concrete group.1.head.name = some type ∧
        scope.schema.concreteTypes type.base = .ok types ∧ ∀ value ∈ types,
          ∃ selected, Collects scope.schema scope.fragments value member.selections selected ∧
            ∀ below ∈ selected,
              AliasHas (scope.Emits parent selections) value below.key name := by
    intro member inside exported
    rw [← here.name_eq grouped inside]
    exact aliasHas_of_writtenFor wellFormed valid declares here.object exported
      (here.written member (SelectedField.mem_of_mem_groups grouped inside).1)
  obtain ⟨name, type, types, isName, known, isTypes, -⟩ :=
    aliasOf first (List.mem_of_find?_eq_some isFirst) (by simpa using List.find?_some isFirst)
  refine ⟨type, name, types, known, isName, fun inner => ?_, isTypes, fun value isValue => ?_⟩
  · -- The shape is made, so the reference is that of the first exported field.
    obtain ⟨bound, expression, isType⟩ := here.exists_groupType valid grouped known
    obtain ⟨found, isFound, -⟩ := bind_eq_ok.mp isType
    obtain ⟨name', isName', rfl⟩ := SelectedField.firstExport?_of_find? isFound isFirst
    cases isName.symm.trans isName'
    rw [property_of_field (Selection.name_ne_typename valid known) known, groupType, isFound]
    rfl
  · have keys : ∀ member ∈ SelectedField.members group, member.head.exportName = .ok name →
        ∃ selected, Collects scope.schema scope.fragments value member.selections selected ∧
          ∀ below ∈ selected, AliasHas (scope.Emits parent selections) value below.key name := by
      intro member inside isOwn
      obtain ⟨own, type', types', isOwn', known', isTypes', keys⟩ :=
        aliasOf member inside (FieldHead.isExported_of_exportName isOwn)
      cases isOwn.symm.trans isOwn'
      cases known.symm.trans known'
      cases isTypes.symm.trans isTypes'
      exact keys value isValue
    refine ⟨keys, fun all => Selection.collects_flatMap fun member inside => ?_⟩
    rcases all member inside with isOwn | none
    · exact keys member inside isOwn
    · rw [none]
      exact ⟨[], .nil, List.forall_mem_nil _⟩

end SelectionScope

end SelectionTypes
