import SelectionTypes.Proofs.Export.Declaration
import SelectionTypes.Proofs.Export.Duplicates
import SelectionTypes.Proofs.Text.Occurrence

/-!
# `SelectionTypes.Proofs.Export.Rendering`: the declarations of exported names

Aliases are declared by name. `declared_by_name` says what is written for aliases of which each has
a shape (`DeclaredByName`): there is one declaration for each name in order of first occurrence,
with the shapes of all aliases of the name between ampersands. An ampersand binds more tightly than
a bar, so one of several names stands in parentheses there (`TypeExpr.asPart`). The program tells
this from the text of a shape, which is right as long as names contain neither blanks nor braces
(`intersectionPart_render`).

An interface is declared as one of the names of its object types, which are declared, too. If all
names are distinct, then an exported object type has one declaration, and an exported interface has
one for itself and one for each of its object types.
-/

set_option autoImplicit false

namespace SelectionTypes

open Outcome

/-! ### Parts of an intersection -/

/-- A name with neither a blank nor a brace. -/
def IsWord (name : String) : Prop :=
  ' ' ∉ name.toList ∧ '{' ∉ name.toList

namespace TypeScript

variable {settings : Settings} {name : String} {shape : TypeExpr} {shapes : List TypeExpr}

/-- A shape as a part of an intersection: one of several names stands in parentheses. -/
def TypeExpr.asPart (settings : Settings) (shape : TypeExpr) : String :=
  match shape with
  | .aliasRefs (_ :: _ :: _) => "(" ++ shape.render settings ++ ")"
  | _ => shape.render settings

/-- What shapes have in common, as it is written. -/
def TypeExpr.joined (settings : Settings) (shapes : List TypeExpr) : String :=
  match shapes with
  | [shape] => shape.render settings
  | _ => " & ".intercalate (shapes.map (asPart settings))

/-- The shapes that aliases have: one of some names, or an object. -/
inductive IsAliasShape : TypeExpr → Prop
  | names {names : List String} (words : ∀ name ∈ names, IsWord name) :
      IsAliasShape (.aliasRefs names)
  | object {properties : List Property} : IsAliasShape (.object properties)

/-- The text of an object type begins with a brace, which tells it from a name. -/
theorem head?_braced (properties : List String) : (braced properties).toList.head? = some '{' := by
  unfold braced
  split <;> simp

/-- Several names are written with a bar behind the first one. -/
theorem toList_barred (first second : String) (rest : List String) :
    (barred (first :: second :: rest)).toList =
      first.toList ++ (" | ".toList ++ (" | ".intercalate (second :: rest)).toList) := by
  rw [barred, if_neg (by simp), String.intercalate_cons_cons, String.toList_append,
    String.toList_append, List.append_assoc]

/-- A bar has blanks around it, so a text without them stays as it is. -/
theorem intersectionPart_of_no_blank {text : String} (free : ' ' ∉ text.toList) :
    intersectionPart text = text := by
  have none : Text.occursIn " | ".toList text.toList = false := Text.occursIn_eq_false free
  rw [intersectionPart, none, Bool.false_and, if_neg Bool.false_ne_true]

/-- A bar is found in the text of a shape exactly if it stands between names. -/
theorem intersectionPart_render (isShape : IsAliasShape shape) :
    intersectionPart (shape.render settings) = shape.asPart settings := by
  cases isShape with
  | @object properties =>
    have brace := head?_braced (TypeExpr.renderProperties settings properties)
    simp [intersectionPart, TypeExpr.render, TypeExpr.asPart, brace]
  | @names names words =>
    match names with
    | [] => exact intersectionPart_of_no_blank (by simp [TypeExpr.render, barred])
    | [name] =>
      have isName : (TypeExpr.aliasRefs [name]).render settings = name := by
        simp [TypeExpr.render, barred]
      refine intersectionPart_of_no_blank ?_
      rw [isName]
      exact (words name (List.mem_singleton_self _)).1
    | first :: second :: rest =>
      -- Names do not begin with a brace, which tells them from an object.
      have begins : ¬ (barred (first :: second :: rest)).toList.head? = some '{' := by
        rw [toList_barred]
        intro brace
        cases own : first.toList with
        | nil => simp [own] at brace
        | cons c others =>
          rw [own, List.cons_append, List.head?_cons, Option.some_inj] at brace
          exact (words first List.mem_cons_self).2 (by rw [own, brace]; exact List.mem_cons_self)
      have bar : Text.occursIn " | ".toList (barred (first :: second :: rest)).toList = true := by
        rw [toList_barred]
        exact Text.occursIn_iff_isInfix.mpr ⟨first.toList, _, List.append_assoc _ _ _⟩
      rw [intersectionPart, TypeExpr.asPart, TypeExpr.render, bar, Bool.true_and,
        if_pos (by simpa using begins)]

/-- The shapes of one alias are joined by their texts as they are joined as types. -/
theorem intersectionText_render (each : ∀ shape ∈ shapes, IsAliasShape shape) :
    intersectionText (shapes.map (TypeExpr.render settings)) = TypeExpr.joined settings shapes := by
  have parts : (shapes.map (TypeExpr.render settings)).map intersectionPart =
      shapes.map (TypeExpr.asPart settings) := by
    rw [List.map_map]
    exact List.map_congr_left fun shape listed => intersectionPart_render (each shape listed)
  match shapes with
  | [] => rfl
  | [shape] => rfl
  | first :: second :: rest => exact congrArg (" & ".intercalate ·) parts

end TypeScript

/-! ### Aliases of one name -/

open TypeScript (TypeExpr Declaration IsAliasShape aliasText)

namespace ExportedAlias

variable {scope : SelectionScope} {parent : String} {selections : List Selection}
variable {aliases : List ExportedAlias} {declarations : List Declaration}

/-- The declarations of aliases: what is declared under which name. -/
structure DeclaredByName (scope : SelectionScope) (aliases : List ExportedAlias)
    (declarations : List Declaration) : Prop where
  /-- There is one declaration for each name, in order of first occurrence, for what the shapes of
  all aliases of the name have in common. -/
  each : List.Forall₂ (fun name declaration => ∃ shapes,
      List.Forall₂ (fun exported shape => exported.shape scope = .ok shape)
        (aliases.filter fun exported => exported.name == name) shapes ∧
      declaration = .intersection name shapes ∧
      declaration.render scope.settings = aliasText name (TypeExpr.joined scope.settings shapes))
    (aliases.map ExportedAlias.name).eraseDups declarations
  /-- Each name that an alias for an interface refers to is declared. -/
  members : ∀ exported ∈ aliases, ∀ names, exported.shape scope = .ok (.aliasRefs names) →
    ∀ name ∈ names, ∃ shapes, .intersection name shapes ∈ declarations

/-- The shapes of all aliases, with their names, give the shapes of those of one name. -/
theorem forall₂_filter_name {shapes : List (String × TypeExpr)}
    (each : List.Forall₂ (fun exported entry => exported.name = entry.1 ∧
      exported.shape scope = .ok entry.2) aliases shapes) (name : String) :
    List.Forall₂ (fun exported shape => exported.shape scope = .ok shape)
      (aliases.filter fun exported => exported.name == name)
      ((shapes.filter fun entry => entry.1 == name).map Prod.snd) := by
  rw [List.forall₂_map_right_iff]
  refine List.Forall₂.imp (fun _ _ both => both.2)
    (List.rel_filter (fun exported entry both => ?_) each)
  show (exported.name == name) = true ↔ (entry.1 == name) = true
  rw [both.1]

/-- The name of a type of the schema is a word if all of them are. -/
theorem isWord_of_type? {schema : Schema} (types : ∀ type ∈ schema.types, IsWord type.name)
    {name : String} {definition : TypeDefinition} (found : schema.type? name = some definition) :
    IsWord name := by
  rw [← Schema.name_of_type? found]
  exact types definition (Schema.mem_of_type? found)

/-- The name for an object type is a word, as both of its parts are. -/
theorem isWord_implementorName {name type : String} (isName : IsWord name) (isType : IsWord type) :
    IsWord (implementorName name type) := by
  simp [IsWord, implementorName, String.toList_append, isName.1, isName.2, isType.1, isType.2]

/-- The shape of an object type is an object. -/
theorem exists_object_of_shapeOf {type : String} {shape : TypeExpr}
    (made : scope.shapeOf type selections = .ok shape) :
    ∃ properties, shape = .object properties := by
  obtain ⟨flattened, -, made⟩ := bind_eq_ok.mp made
  obtain ⟨properties, -, rfl⟩ := SelectionScope.objectShape_eq_ok.mp made
  exact ⟨_, rfl⟩

/-- The shape of an alias is one of some names, or an object. -/
theorem isAliasShape_of_shape (wellFormed : scope.schema.WellFormed)
    (types : ∀ type ∈ scope.schema.types, IsWord type.name) {exported : ExportedAlias}
    (isName : IsWord exported.name) {shape : TypeExpr}
    (isShape : exported.shape scope = .ok shape) : IsAliasShape shape := by
  obtain ⟨definition, found, ⟨kind, rfl⟩ | ⟨kind, made⟩⟩ := shape_eq_ok.mp isShape
  · refine .names fun name listed => ?_
    obtain ⟨concrete, possible, rfl⟩ := List.mem_map.mp listed
    obtain ⟨other, isOther, -⟩ := Schema.kind?_eq_some.mp
      (wellFormed.kind?_of_mem_possibleTypes (Schema.mem_of_type? found) possible)
    exact isWord_implementorName isName (isWord_of_type? types isOther)
  · obtain ⟨properties, rfl⟩ := exists_object_of_shapeOf made
    exact .object

/-- Names of collected aliases are words if all types and exports have words for names. -/
theorem isWord_of_collect (wellFormed : scope.schema.WellFormed)
    (types : ∀ type ∈ scope.schema.types, IsWord type.name)
    (collects : collect scope.schema parent selections = .ok aliases)
    (exports : ∀ field ∈ exportedFields scope.schema parent selections, ∀ name,
      field.2.head.exportName = .ok name → IsWord name)
    {exported : ExportedAlias} (listed : exported ∈ aliases)
    {shape : TypeExpr} (isShape : exported.shape scope = .ok shape) : IsWord exported.name := by
  obtain ⟨rfl, made⟩ := collected_eq_flatMap collects
  obtain ⟨field, inside, own⟩ := List.mem_flatMap.mp listed
  obtain ⟨-, -, name, type, isName, -, part⟩ := (made field inside).name_of_mem wellFormed own
  have isWord := exports field inside name isName
  rcases part with ⟨-, same⟩ | ⟨-, same⟩
  · rwa [same]
  · obtain ⟨definition, found, -⟩ := shape_eq_ok.mp isShape
    rw [same]
    exact isWord_implementorName isWord (isWord_of_type? types found)

/-- The names that an alias for an interface refers to are those of collected aliases. -/
theorem exists_alias_of_names (wellFormed : scope.schema.WellFormed)
    (collects : collect scope.schema parent selections = .ok aliases)
    {exported : ExportedAlias} (listed : exported ∈ aliases) {names : List String}
    (isShape : exported.shape scope = .ok (.aliasRefs names)) {name : String}
    (inside : name ∈ names) : ∃ other ∈ aliases, other.name = name := by
  -- The alias and the ones that it refers to are made for one exported field.
  obtain ⟨rfl, made⟩ := collected_eq_flatMap collects
  obtain ⟨field, isExport, own⟩ := List.mem_flatMap.mp listed
  obtain ⟨type, -, isOwn⟩ := made field isExport
  obtain ⟨exportName, definition, -, -, found, -, aliases⟩ := ofField_eq_ok isOwn
  obtain ⟨definition', found', ⟨kind, same⟩ | ⟨-, isObject⟩⟩ := shape_eq_ok.mp isShape
  · cases same
    obtain ⟨concrete, possible, rfl⟩ := List.mem_map.mp inside
    rw [aliases] at own
    rcases List.mem_cons.mp own with rfl | put
    · -- The alias for the type of the field refers to those behind it.
      cases found.symm.trans found'
      refine ⟨⟨implementorName exportName concrete, concrete, field.1, field.2⟩, ?_, rfl⟩
      refine List.mem_flatMap.mpr ⟨field, isExport, ?_⟩
      rw [aliases, if_pos (by simpa using kind)]
      exact List.mem_cons_of_mem _ (List.mem_map.mpr ⟨concrete, possible, rfl⟩)
    · -- The aliases behind it are for object types.
      obtain ⟨other, isOther, rfl⟩ := List.mem_map.mp put
      obtain ⟨_, found'', object⟩ := Schema.kind?_eq_some.mp (wellFormed.kind?_of_mem_possibleTypes
        (Schema.mem_of_type? found) (mem_implementors_iff.mp isOther).2)
      cases found'.symm.trans found''
      cases kind.symm.trans object
  · obtain ⟨properties, same⟩ := exists_object_of_shapeOf isObject
    cases same

/-! ### The number of declarations -/

/-- The type that an exported field has apart from lists and null. -/
def exportedType? (schema : Schema) (field : ExportedField) : Option TypeDefinition :=
  (fieldType? schema field.1 field.2.head.name).bind fun type => schema.type? type.base

/-- The types of exported fields that are of one kind. -/
def exportedTypes (schema : Schema) (fields : List ExportedField) (kind : TypeKind) :
    List TypeDefinition :=
  (fields.filterMap (exportedType? schema)).filter fun definition => definition.kind == kind

/-- An exported object type has one alias. An exported interface has one more than it has object
types. -/
theorem length_aliases {schema : Schema} {fields : List ExportedField}
    (made : ∀ field ∈ fields, AliasesOf schema field.1 field.2 (aliasesAt schema field)) :
    (fields.flatMap (aliasesAt schema)).length =
      (exportedTypes schema fields .object).length +
        ((exportedTypes schema fields .interface).map fun definition =>
          (schema.possibleTypes definition).length + 1).sum := by
  induction fields with
  | nil => rfl
  | cons field rest ih =>
    rw [List.forall_mem_cons] at made
    obtain ⟨⟨type, known, own⟩, behind⟩ := made
    obtain ⟨name, definition, -, -, found, exportable, aliases⟩ := ofField_eq_ok own
    have isType : exportedType? schema field = some definition := by
      rw [exportedType?, known, Option.bind_some, found]
    -- Which of the two kinds the type is decides the count for the first field.
    have split : ∀ kind, exportedTypes schema (field :: rest) kind =
        (if definition.kind == kind then [definition] else [])
          ++ exportedTypes schema rest kind := by
      intro kind
      unfold exportedTypes
      rw [List.filterMap_cons_some isType, List.filter_cons]
      split <;> rfl
    rw [List.flatMap_cons, List.length_append, ih behind, split, split, aliases]
    rcases Schema.isExportable_iff.mp exportable with kind | kind
    · simp [kind]
      omega
    · simp [kind]
      omega

/-- Aliases that are collected from selections and have shapes are declared by name. If their names
are distinct, there is one declaration for each exported object type, and for each exported
interface one more than it has object types. -/
theorem declared_by_name (wellFormed : scope.schema.WellFormed)
    (types : ∀ type ∈ scope.schema.types, IsWord type.name)
    (collects : collect scope.schema parent selections = .ok aliases)
    (exports : ∀ field ∈ exportedFields scope.schema parent selections, ∀ name,
      field.2.head.exportName = .ok name → IsWord name)
    (shaped : ∀ exported ∈ aliases, ∃ shape, exported.shape scope = .ok shape) :
    ∃ declarations, declare scope aliases = .ok declarations ∧
      DeclaredByName scope aliases declarations ∧
      ((aliases.map ExportedAlias.name).Nodup →
        let fields := exportedFields scope.schema parent selections
        declarations.length = (exportedTypes scope.schema fields .object).length +
          ((exportedTypes scope.schema fields .interface).map fun definition =>
            (scope.schema.possibleTypes definition).length + 1).sum) := by
  have isShape : ∀ exported ∈ aliases, ∀ shape, exported.shape scope = .ok shape →
      IsAliasShape shape := fun exported listed shape made =>
    isAliasShape_of_shape wellFormed types
      (isWord_of_collect wellFormed types collects exports listed made) made
  -- Each alias has one shape, and the declarations are made of these pairs.
  have entry : ∀ exported ∈ aliases, ∃ entry : String × TypeExpr,
      exported.name = entry.1 ∧ exported.shape scope = .ok entry.2 := fun exported listed =>
    (shaped exported listed).imp' (exported.name, ·) fun shape made => ⟨rfl, made⟩
  obtain ⟨shapes, each⟩ := Lists.exists_forall₂ entry
  have names : shapes.map Prod.fst = aliases.map ExportedAlias.name := by
    have alike : List.Forall₂ Eq (aliases.map ExportedAlias.name) (shapes.map Prod.fst) := by
      rw [List.forall₂_map_left_iff, List.forall₂_map_right_iff]
      exact each.imp fun _ _ both => both.1
    rw [List.forall₂_eq_eq_eq] at alike
    exact alike.symm
  have declares : declare scope aliases = .ok (declareNamed shapes) :=
    declare_eq_ok.mpr ⟨shapes, each, rfl⟩
  refine ⟨declareNamed shapes, declares, { each := ?_, members := ?_ }, fun distinct => ?_⟩
  · rw [← names, declareNamed, List.forall₂_map_right_iff, List.forall₂_same]
    intro name _
    have own := forall₂_filter_name each name
    refine ⟨_, own, rfl, ?_⟩
    rw [Declaration.render, TypeScript.intersectionText_render]
    intro shape listed
    obtain ⟨exported, isNamed, made⟩ := Lists.exists_of_mem_right own listed
    exact isShape exported (List.mem_of_mem_filter isNamed) shape made
  · intro exported listed names made name inside
    obtain ⟨other, isOther, rfl⟩ := exists_alias_of_names wellFormed collects listed made inside
    exact exists_declaration_of_declare declares isOther
  · -- Distinct names are declared once each, so there are as many declarations as aliases.
    obtain ⟨same, made⟩ := collected_eq_flatMap collects
    have once : (aliases.map ExportedAlias.name).eraseDups.Perm (aliases.map ExportedAlias.name) :=
      (List.perm_ext_iff_of_nodup (Lists.nodup_eraseDups _) distinct).mpr
        fun _ => List.mem_eraseDups
    rw [declareNamed, List.length_map, names, once.length_eq, List.length_map, same]
    exact length_aliases made

/-! ### Friends in declarations -/

/-- Pets without fragments. -/
def friendScope : SelectionScope :=
  { schema := Schema.pets, settings := {}, fragments := [] }

/-- The names of collected aliases that have shapes. -/
def shapedNames (parent : String) (selections : List Selection) :
    Except GenerationError (List String) := do
  let aliases ← collect Schema.pets parent selections
  let _ ← aliases.mapM (shape friendScope)
  return aliases.map ExportedAlias.name

/-- The computed names of selections are those of their aliases, all of which have shapes. -/
theorem exists_shaped_of_names {names : List String}
    (computed : shapedNames parent selections = .ok names) :
    ∃ aliases, collect Schema.pets parent selections = .ok aliases ∧
      aliases.map ExportedAlias.name = names ∧
      ∀ exported ∈ aliases, ∃ shape, exported.shape friendScope = .ok shape := by
  obtain ⟨aliases, collects, rest⟩ := bind_eq_ok.mp computed
  obtain ⟨shapes, all, same⟩ := bind_eq_ok.mp rest
  refine ⟨aliases, collects, Except.ok.inj same, fun exported listed => ?_⟩
  obtain ⟨shape, -, made⟩ := Lists.exists_of_mem_left (mapM_eq_ok.mp all) listed
  exact ⟨shape, made⟩

/-- The names of pets are words, and so is that of an exported friend. -/
theorem isWord_friends (fields : List ExportedField) (friends : ∀ field ∈ fields,
      field.2 = exportedFriend) :
    (∀ type ∈ Schema.pets.types, IsWord type.name) ∧
      ∀ field ∈ fields, ∀ name, field.2.head.exportName = .ok name → IsWord name := by
  have friend : exportedFriend.head.exportName = .ok "Friend" := rfl
  refine ⟨by simp [Schema.pets, IsWord], fun field listed name isName => ?_⟩
  rw [friends field listed] at isName
  cases friend.symm.trans isName
  simp [IsWord]

/-- Two exports of a friend are declared together. One of them alone has three declarations. -/
theorem friends_declared :
    Schema.pets.WellFormed ∧ (∀ type ∈ Schema.pets.types, IsWord type.name) ∧
    (∃ aliases declarations, collect Schema.pets "Pet" friendSelections = .ok aliases ∧
      declare friendScope aliases = .ok declarations ∧
      DeclaredByName friendScope aliases declarations) ∧
    ∃ aliases declarations,
      collect Schema.pets "Cat" [.field exportedFriend.head exportedFriend.selections] =
        .ok aliases ∧
      (aliases.map ExportedAlias.name).Nodup ∧
      declare friendScope aliases = .ok declarations ∧ declarations.length = 3 := by
  have alone : exportedFields Schema.pets "Cat"
      [.field exportedFriend.head exportedFriend.selections] = [("Cat", exportedFriend)] := by cbv
  obtain ⟨types, both⟩ := isWord_friends (exportedFields Schema.pets "Pet" friendSelections)
    (by rw [exportedFields_friendSelections]; simp)
  obtain ⟨-, one⟩ := isWord_friends (exportedFields Schema.pets "Cat"
    [.field exportedFriend.head exportedFriend.selections]) (by rw [alone]; simp)
  -- The names of aliases and whether all of them have a shape are computed in one go.
  have twoNames : shapedNames "Pet" friendSelections = .ok ["Friend", "Friend_Cat", "Friend_Dog",
    "Friend", "Friend_Cat", "Friend_Dog"] := by cbv
  have oneName : shapedNames "Cat" [.field exportedFriend.head exportedFriend.selections] =
    .ok ["Friend", "Friend_Cat", "Friend_Dog"] := by cbv
  refine ⟨Schema.wellFormed_pets, types, ?_, ?_⟩
  · obtain ⟨aliases, collects, -, shaped⟩ := exists_shaped_of_names twoNames
    obtain ⟨declarations, declares, byName, -⟩ :=
      @declared_by_name friendScope _ _ _ Schema.wellFormed_pets types collects both shaped
    exact ⟨aliases, declarations, collects, declares, byName⟩
  · obtain ⟨aliases, collects, names, shaped⟩ := exists_shaped_of_names oneName
    have distinct : (aliases.map ExportedAlias.name).Nodup := by
      rw [names]
      decide
    obtain ⟨declarations, declares, -, count⟩ :=
      @declared_by_name friendScope _ _ _ Schema.wellFormed_pets types collects one shaped
    refine ⟨aliases, declarations, collects, distinct, declares, ?_⟩
    rw [count distinct]
    show (exportedTypes Schema.pets (exportedFields Schema.pets "Cat" _) .object).length +
      ((exportedTypes Schema.pets (exportedFields Schema.pets "Cat" _) .interface).map _).sum = 3
    rw [alone]
    rfl

end ExportedAlias

end SelectionTypes
