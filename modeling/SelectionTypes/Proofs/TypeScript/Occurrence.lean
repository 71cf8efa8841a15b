import SelectionTypes.Proofs.Export.Denotation
import SelectionTypes.Proofs.Generation.GlobalReferences
import SelectionTypes.Proofs.Text.Occurrence
import SelectionTypes.Proofs.TypeScript.Nullability

/-!
# `SelectionTypes.Proofs.TypeScript.Occurrence`: what brings a mark into what is written

The mark of the global module is its name with a dot. A reference there is written with the mark
(`infix_of_isGlobal`), and list and null marks, objects, unions and declarations keep it
(`infix_render`, `infix_declaration`). So it is written wherever declarations refer to the global
module: `infix_renderAll`.

The converse is about everything else that is written. A type expression and a declaration have
texts of their own, and the rest is fixed text without a dot. If the own texts are clear of a mark
that ends in a dot, then only a reference into the global module can bring the mark about
(`isClearOf_render`, `isClearOf_declaration`): `referToGlobal_of_infix`.
-/

set_option autoImplicit false

namespace SelectionTypes.TypeScript

namespace TypeExpr

/-- The texts that a type expression is written with itself, apart from those of its parts and from
the name of the global module. -/
def ownTexts (settings : Settings) : TypeExpr → List String
  | .text written => [written]
  | .declared type => [settings.typeName type]
  | .aliasRef name => [name]
  | .aliasRefs names => names
  | .typename type => [type]
  | .object properties => properties.map fun property => property.1.name
  | .scalarEntry _ _ | .enumEntry _ | .marked _ _ | .union _ => []

/-- The texts of a type expression are clear of a mark, those of its parts included. -/
def IsClearOf (settings : Settings) (mark : List Char) (type : TypeExpr) : Prop :=
  ∀ part : TypeExpr, part.Within type →
    ∀ text ∈ part.ownTexts settings, Text.IsClearOf mark text.toList

section IsClearOf

variable {settings : Settings} {mark : List Char} {name : String}

/-- List and null marks have no texts of their own, so a marked type is as clear as its base. -/
theorem IsClearOf.marked {base : TypeExpr} (clear : base.IsClearOf settings mark) (type : TypeRef) :
    (TypeExpr.marked type base).IsClearOf settings mark := by
  intro part within
  cases within with
  | self => exact List.forall_mem_nil _
  | marked inside => exact clear part inside

/-- The type of an object name is clear if the name is. -/
theorem isClearOf_typename (clear : Text.IsClearOf mark name.toList) :
    (TypeExpr.typename name).IsClearOf settings mark := by
  intro part within
  cases within
  exact List.forall_mem_singleton.mpr clear

/-- A reference to an alias is clear if its name is. -/
theorem isClearOf_aliasRef (clear : Text.IsClearOf mark name.toList) :
    (TypeExpr.aliasRef name).IsClearOf settings mark := by
  intro part within
  cases within
  exact List.forall_mem_singleton.mpr clear

/-- References to aliases are clear if all names are. -/
theorem isClearOf_aliasRefs {names : List String}
    (each : ∀ name ∈ names, Text.IsClearOf mark name.toList) :
    (TypeExpr.aliasRefs names).IsClearOf settings mark := by
  intro part within
  cases within
  exact each

/-- An object is clear if the names and the types of its properties are. -/
theorem isClearOf_object {properties : List Property}
    (each : ∀ property ∈ properties,
      Text.IsClearOf mark property.1.name.toList ∧ property.2.IsClearOf settings mark) :
    (TypeExpr.object properties).IsClearOf settings mark := by
  intro part within
  cases within with
  | self => exact List.forall_mem_map.mpr fun property listed => (each property listed).1
  | property listed inside => exact (each _ listed).2 part inside

/-- A union is clear if its shapes are. -/
theorem isClearOf_union {shapes : List TypeExpr}
    (each : ∀ shape ∈ shapes, shape.IsClearOf settings mark) :
    (TypeExpr.union shapes).IsClearOf settings mark := by
  intro part within
  cases within with
  | self => exact List.forall_mem_nil _
  | shape listed inside => exact each _ listed part inside

end IsClearOf

/-- The written properties are those of the object, each with its type. -/
theorem mem_renderProperties {settings : Settings} {properties : List Property} {text : String} :
    text ∈ renderProperties settings properties ↔
      ∃ property ∈ properties, property.1.render (property.2.render settings) = text := by
  induction properties with
  | nil => simp [renderProperties]
  | cons property rest ih => simp [renderProperties, ih, eq_comm]

end TypeExpr

open Text (IsClearOf isClearOf_of_not_mem)

/-- The texts that a member of an enum is written with. -/
def EnumMember.ownTexts (member : EnumMember) : List String :=
  member.name :: member.value :: member.description.toList

/-- The texts that a declaration is written with itself, apart from those of its types. -/
def Declaration.ownTexts (settings : Settings) : Declaration → List String
  | .typeAlias name _ => [name]
  | .intersection name _ => [name]
  | .object name description properties =>
    name :: (description.toList ++ properties.flatMap fun property =>
      property.1.name :: property.1.description.toList)
  | .enum name description members =>
    settings.enumName name :: (description.toList ++ members.flatMap EnumMember.ownTexts)

/-- The texts of a declaration are clear of a mark, those of its types included. -/
def Declaration.IsClearOf (settings : Settings) (mark : List Char) (declaration : Declaration) :
    Prop :=
  (∀ text ∈ declaration.ownTexts settings, Text.IsClearOf mark text.toList) ∧
    ∀ type ∈ declaration.types, type.IsClearOf settings mark

variable {mark : List Char} {immutable : Bool} {settings : Settings} {text base : String}

/-- A text takes the mark of a null type away or keeps all of it. -/
theorem clearNull_cases (text : String) :
    clearNull text = text ∨ text = addNull (clearNull text) := by
  unfold clearNull
  split
  · next ends =>
    obtain ⟨front, split⟩ := List.isSuffixOf_iff_suffix.mp ends
    right
    rw [addNull, ← String.toList_inj, String.toList_append, String.toList_ofList, ← split]
    simp
  · exact .inl rfl

/-! ### Parts of what is written -/

/-- Each property is inside the text of its object. -/
theorem infix_braced {properties : List String} (listed : text ∈ properties) :
    text.toList <:+: (braced properties).toList := by
  unfold braced
  rw [if_neg (by simpa using List.ne_nil_of_mem listed), String.toList_append, String.toList_append]
  exact List.infix_append_of_infix_left
    (List.infix_append_of_infix_right (infix_intercalate ", " listed))

/-- Each alternative is inside the text of a union. -/
theorem infix_barred {alternatives : List String} (listed : text ∈ alternatives) :
    text.toList <:+: (barred alternatives).toList := by
  unfold barred
  rw [if_neg (by simpa using List.ne_nil_of_mem listed)]
  exact infix_intercalate " | " listed

/-- The type of a property is inside its text. -/
theorem infix_head (head : PropertyHead) (type : String) :
    type.toList <:+: (head.render type).toList := by
  unfold PropertyHead.render
  rw [String.toList_append]
  exact List.infix_append_of_infix_right List.infix_rfl

/-- Each shape is inside the text of an intersection, whether or not it gets brackets. -/
theorem infix_intersectionText {shapes : List String} (listed : text ∈ shapes) :
    text.toList <:+: (intersectionText shapes).toList := by
  have part : text.toList <:+: (intersectionPart text).toList := by
    unfold intersectionPart
    split
    · rw [String.toList_append, String.toList_append]
      exact List.infix_append _ _ _
    · exact List.infix_rfl
  unfold intersectionText
  split
  · rw [List.mem_singleton.mp listed]
  · exact part.trans (infix_intercalate " & " (List.mem_map_of_mem listed))

/-- The type of an alias is inside its text. -/
theorem infix_aliasText (name text : String) : text.toList <:+: (aliasText name text).toList := by
  unfold aliasText
  rw [String.toList_append, String.toList_append]
  exact List.infix_append _ _ _

/-- A line is among those of itself and its comment. -/
theorem mem_commented (indent : String) (description : Option String) (line : String) :
    line ∈ commented indent description line := by
  unfold commented
  split
  · split <;> simp
  · simp

/-- The types of a declaration are inside what is written for it. -/
theorem infix_declaration {declaration : Declaration} {type : TypeExpr}
    (listed : type ∈ declaration.types) :
    (type.render settings).toList <:+: (declaration.render settings).toList := by
  cases declaration with
  | typeAlias name other =>
    rw [List.mem_singleton.mp listed]
    exact infix_aliasText _ _
  | intersection name shapes =>
    exact (infix_intersectionText (List.mem_map_of_mem listed)).trans (infix_aliasText _ _)
  | object name description properties =>
    obtain ⟨property, isProperty, rfl⟩ := List.mem_map.mp listed
    let line := "  " ++ property.1.render (property.2.render settings) ++ ";"
    -- The type is inside the line of its property, and this is one of the lines of the object.
    have inLine : (property.2.render settings).toList <:+: line.toList := by
      rw [String.toList_append, String.toList_append]
      exact (infix_head property.1 _).trans (List.infix_append _ _ _)
    refine inLine.trans (infix_intercalate "\n" (List.mem_append_left _
      (List.mem_append_right _ (List.mem_flatMap.mpr ⟨_, List.mem_map_of_mem isProperty, ?_⟩))))
    exact mem_commented "  " property.1.description line
  | enum name description members => cases listed

section Mark

variable (ends : mark.getLast? = some '.')

include ends

/-! ### List and null marks -/

/-- Taking the mark of a null type away leaves an occurrence alone. It ends in a dot, which is not
in that mark. -/
theorem infix_clearNull (occurs : mark <:+: text.toList) : mark <:+: (clearNull text).toList := by
  rcases clearNull_cases text with same | split
  · rwa [same]
  · rw [split, addNull, String.toList_append] at occurs
    exact isClearOf_of_not_mem ends (by decide) _ occurs

/-- A mark is kept under list and null marks. -/
theorem infix_wrap (occurs : mark <:+: base.toList) (type : TypeRef) :
    mark <:+: (wrap immutable base type).toList := by
  induction type with
  | named name =>
    rw [wrap, addNull, String.toList_append]
    exact List.infix_append_of_infix_left occurs
  | list of ih =>
    rw [wrap, addNull, String.toList_append, toList_listText]
    exact List.infix_append_of_infix_left
      (List.infix_append_of_infix_left (List.infix_append_of_infix_right (List.infix_cons ih)))
  | nonNull of ih => exact infix_clearNull ends ih

/-- List and null marks bring no mark about. -/
theorem isClearOf_wrap (clear : IsClearOf mark base.toList) (type : TypeRef) :
    IsClearOf mark (wrap immutable base type).toList := by
  have null : ∀ {text : String}, IsClearOf mark text.toList →
      IsClearOf mark (addNull text).toList :=
    fun clear => clear.append_text (isClearOf_of_not_mem ends (by decide))
  induction type with
  | named name => exact null clear
  | list of ih =>
    have name : IsClearOf mark (listName immutable).toList :=
      isClearOf_of_not_mem ends (by cases immutable <;> decide)
    refine null (IsClearOf.append_text ?_ (isClearOf_of_not_mem ends (by decide)))
    exact (name.append_text (isClearOf_of_not_mem ends (by decide))).append_text ih
  | nonNull of ih =>
    -- Under a non-null mark the text stays, or it loses an end, and a beginning of a clear text is
    -- clear.
    rcases clearNull_cases (wrap immutable base of) with same | split
    · rwa [wrap, same]
    · rw [split, addNull, String.toList_append] at ih
      exact ih.of_append

/-! ### Properties and alternatives -/

/-- The text of an object is clear if its properties are. -/
theorem isClearOf_braced {properties : List String}
    (each : ∀ property ∈ properties, IsClearOf mark property.toList) :
    IsClearOf mark (braced properties).toList := by
  unfold braced
  split
  · exact isClearOf_of_not_mem ends (by decide)
  · exact (IsClearOf.append_text (isClearOf_of_not_mem ends (by decide))
      (.intercalate_text (isClearOf_of_not_mem ends (by decide)) each)).append_text
      (isClearOf_of_not_mem ends (by decide))

/-- The text of a union is clear if its alternatives are. -/
theorem isClearOf_barred {alternatives : List String}
    (each : ∀ alternative ∈ alternatives, IsClearOf mark alternative.toList) :
    IsClearOf mark (barred alternatives).toList := by
  unfold barred
  split
  · exact isClearOf_of_not_mem ends (by decide)
  · exact .intercalate_text (isClearOf_of_not_mem ends (by decide)) each

/-- A property is clear if its name and its type are. -/
theorem isClearOf_head {head : PropertyHead} (name : IsClearOf mark head.name.toList)
    (clear : IsClearOf mark text.toList) : IsClearOf mark (head.render text).toList := by
  unfold PropertyHead.render
  refine IsClearOf.append_text (.append_text (.append_text (.append_text ?_ name) ?_) ?_) clear
  all_goals exact isClearOf_of_not_mem ends (by first | decide | (split <;> decide))

/-! ### Type expressions -/

/-- A mark that is written for a part is written for the whole. -/
theorem infix_render {part type : TypeExpr} (within : part.Within type)
    (occurs : mark <:+: (part.render settings).toList) :
    mark <:+: (type.render settings).toList := by
  -- Along the way from the whole to the part, each step of which writes the part somewhere inside.
  induction within with
  | self => exact occurs
  | marked inside ih =>
    rw [TypeExpr.render]
    exact infix_wrap ends ih _
  | @property properties property listed inside ih =>
    rw [TypeExpr.render]
    exact ih.trans ((infix_head property.1 _).trans
      (infix_braced (TypeExpr.mem_renderProperties.mpr ⟨property, listed, rfl⟩)))
  | @shape shapes shape listed inside ih =>
    rw [TypeExpr.render]
    exact ih.trans (infix_barred (List.mem_eraseDups.mpr
      ((TypeExpr.mem_renderShapes settings).mpr ⟨shape, listed, rfl⟩)))

/-- A type expression that refers nowhere into the global module, and whose texts are clear of a
mark, is written without bringing the mark about. -/
theorem isClearOf_render {type : TypeExpr} (clear : type.IsClearOf settings mark)
    (plain : ∀ part : TypeExpr, part.Within type → part.isGlobal = false) :
    IsClearOf mark (type.render settings).toList := by
  have noGlobal := plain type .self
  have own := clear type .self
  -- By the constructors. The parts of a type are within it, so their texts are clear, too.
  cases type with
  | text written => exact own written (List.mem_singleton_self _)
  | scalarEntry scalar side => cases noGlobal
  | enumEntry enum => cases noGlobal
  | declared name => exact own _ (List.mem_singleton_self _)
  | aliasRef name => exact own _ (List.mem_singleton_self _)
  | aliasRefs names => exact isClearOf_barred ends own
  | typename name =>
    have quote : IsClearOf mark "'".toList := isClearOf_of_not_mem ends (by decide)
    exact (quote.append_text (own _ (List.mem_singleton_self _))).append_text quote
  | marked type base =>
    exact isClearOf_wrap ends (isClearOf_render (fun part within => clear part (.marked within))
      fun part within => plain part (.marked within)) type
  | object properties =>
    refine isClearOf_braced ends fun text written => ?_
    obtain ⟨property, listed, rfl⟩ := TypeExpr.mem_renderProperties.mp written
    exact isClearOf_head ends (own _ (List.mem_map_of_mem listed))
      (isClearOf_render (fun part within => clear part (.property listed within))
        fun part within => plain part (.property listed within))
  | union shapes =>
    refine isClearOf_barred ends fun text written => ?_
    obtain ⟨shape, listed, rfl⟩ :=
      (TypeExpr.mem_renderShapes settings).mp (List.mem_eraseDups.mp written)
    exact isClearOf_render (fun part within => clear part (.shape listed within))
      fun part within => plain part (.shape listed within)
termination_by sizeOf type
decreasing_by
  · simp_all
  · have smaller := List.sizeOf_lt_of_mem listed
    obtain ⟨head, inner⟩ := property
    simp_all
    omega
  · have smaller := List.sizeOf_lt_of_mem listed
    simp_all
    omega

/-! ### Declarations -/

/-- The declaration of an alias is clear if its name and its type are. -/
theorem isClearOf_aliasText {name : String} (named : IsClearOf mark name.toList)
    (clear : IsClearOf mark text.toList) : IsClearOf mark (aliasText name text).toList := by
  have fixed : ∀ {text : String}, '.' ∉ text.toList → IsClearOf mark text.toList :=
    isClearOf_of_not_mem ends
  exact ((((fixed (by decide)).append_text named).append_text (fixed (by decide))).append_text
    clear).append_text (fixed (by decide))

/-- An intersection is clear if its shapes are. The brackets around a shape have no dot. -/
theorem isClearOf_intersectionText {shapes : List String}
    (each : ∀ shape ∈ shapes, IsClearOf mark shape.toList) :
    IsClearOf mark (intersectionText shapes).toList := by
  -- A shape may be put into brackets.
  have part : ∀ text ∈ shapes.map intersectionPart, IsClearOf mark text.toList := by
    rw [List.forall_mem_map]
    intro shape listed
    unfold intersectionPart
    split
    · exact (IsClearOf.append_text (isClearOf_of_not_mem ends (by decide))
        (each shape listed)).append_text (isClearOf_of_not_mem ends (by decide))
    · exact each shape listed
  unfold intersectionText
  split
  · exact each _ (List.mem_singleton_self _)
  · exact .intercalate_text (isClearOf_of_not_mem ends (by decide)) part

/-- A line and the comment in front of it are clear if the comment is. -/
theorem isClearOf_commented {indent line : String} {description : Option String}
    (plain : '.' ∉ indent.toList) (comment : ∀ text ∈ description, IsClearOf mark text.toList)
    (clear : IsClearOf mark line.toList) :
    ∀ written ∈ commented indent description line, IsClearOf mark written.toList := by
  have fixed : ∀ {text : String}, '.' ∉ text.toList → IsClearOf mark text.toList :=
    isClearOf_of_not_mem ends
  -- The line stands alone if there is no comment or an empty one.
  unfold commented
  split
  · next text =>
    split
    · exact List.forall_mem_singleton.mpr clear
    · have inner := comment text rfl
      simp only [List.forall_mem_cons, List.not_mem_nil, IsEmpty.forall_iff, implies_true, and_true]
      exact ⟨(((fixed plain).append_text (fixed (by decide))).append_text inner).append_text
        (fixed (by decide)), clear⟩
  · exact List.forall_mem_singleton.mpr clear

/-- The lines of an enum are clear if its members are, with their comments. -/
theorem isClearOf_memberLines {members : List EnumMember}
    (each : ∀ member ∈ members, ∀ text ∈ member.ownTexts, IsClearOf mark text.toList) :
    ∀ line ∈ memberLines members, IsClearOf mark line.toList := by
  have fixed : ∀ {text : String}, '.' ∉ text.toList → IsClearOf mark text.toList :=
    isClearOf_of_not_mem ends
  -- On the members, as each has lines of its own.
  induction members with
  | nil => exact List.forall_mem_nil _
  | cons member members ih =>
    rw [List.forall_mem_cons] at each
    obtain ⟨name, value, comment⟩ := by
      simpa only [EnumMember.ownTexts, List.forall_mem_cons, Option.mem_toList] using each.1
    refine List.forall_mem_append.mpr ⟨isClearOf_commented ends (by decide) comment ?_, ih each.2⟩
    refine IsClearOf.append_text (((((fixed (by decide)).append_text name).append_text
      (fixed (by decide))).append_text value).append_text (fixed (by decide))) (fixed ?_)
    split <;> decide

/-- A declaration whose texts and types are clear of a mark brings none about. -/
theorem isClearOf_declaration {declaration : Declaration}
    (own : ∀ text ∈ declaration.ownTexts settings, IsClearOf mark text.toList)
    (types : ∀ type ∈ declaration.types, IsClearOf mark (type.render settings).toList) :
    IsClearOf mark (declaration.render settings).toList := by
  -- What is written around the given texts has no dot, so no mark can end in it.
  have fixed : ∀ {text : String}, '.' ∉ text.toList → IsClearOf mark text.toList :=
    isClearOf_of_not_mem ends
  cases declaration with
  | typeAlias name type =>
    exact isClearOf_aliasText ends (own name (List.mem_singleton_self _))
      (types type (List.mem_singleton_self _))
  | intersection name shapes =>
    exact isClearOf_aliasText ends (own name (List.mem_singleton_self _))
      (isClearOf_intersectionText ends (List.forall_mem_map.mpr types))
  | object name description properties =>
    simp only [Declaration.ownTexts, List.forall_mem_cons, List.forall_mem_append,
      List.forall_mem_flatMap, Option.mem_toList] at own
    obtain ⟨named, comment, each⟩ := own
    refine .intercalate_text (fixed (by decide)) (List.forall_mem_append.mpr
      ⟨List.forall_mem_append.mpr ⟨isClearOf_commented ends (by decide) comment ?_, ?_⟩, ?_⟩)
    · exact ((fixed (by decide)).append_text named).append_text (fixed (by decide))
    · rw [List.forall_mem_flatMap, List.forall_mem_map]
      intro property listed
      have head := each property listed
      have inner := isClearOf_head ends head.1 (types _ (List.mem_map_of_mem listed))
      exact isClearOf_commented ends (by decide) head.2
        (((fixed (by decide)).append_text inner).append_text (fixed (by decide)))
    · exact List.forall_mem_singleton.mpr (fixed (by decide))
  | enum name description members =>
    simp only [Declaration.ownTexts, List.forall_mem_cons, List.forall_mem_append,
      List.forall_mem_flatMap, Option.mem_toList] at own
    obtain ⟨named, comment, each⟩ := own
    refine .intercalate_text (fixed (by decide)) (List.forall_mem_append.mpr
      ⟨List.forall_mem_append.mpr ⟨isClearOf_commented ends (by decide) comment ?_, ?_⟩, ?_⟩)
    · exact ((fixed (by decide)).append_text named).append_text (fixed (by decide))
    · exact isClearOf_memberLines ends each
    · exact List.forall_mem_singleton.mpr (fixed (by decide))

end Mark

/-! ### The mark of the global module -/

/-- A declaration refers into the global module. -/
def ReferToGlobal (declarations : List Declaration) : Prop :=
  ∃ declaration ∈ declarations, ∃ type ∈ declaration.types, ∃ reference : TypeExpr,
    reference.isGlobal = true ∧ reference.Within type

variable {declarations : List Declaration}

/-- The mark of the global module ends in a dot if the module has a name. -/
theorem getLast?_namespaceDot (named : settings.namespacedImportName ≠ "") :
    settings.namespaceDot.toList.getLast? = some '.' := by
  rw [Settings.namespaceDot, if_neg (by simpa using named), String.toList_append]
  exact List.getLast?_concat

/-- A reference into the global module is written with its mark. -/
theorem infix_of_isGlobal {reference : TypeExpr} (global : reference.isGlobal = true) :
    settings.namespaceDot.toList <:+: (reference.render settings).toList := by
  cases reference with
  | scalarEntry scalar side =>
    simp only [TypeExpr.render, String.toList_append, List.append_assoc]
    exact List.infix_append_left
  | enumEntry enum =>
    rw [TypeExpr.render, String.toList_append]
    exact List.infix_append_left
  | _ => cases global

/-- The mark of the global module is written where declarations refer there. -/
theorem infix_renderAll (named : settings.namespacedImportName ≠ "")
    (refer : ReferToGlobal declarations) :
    settings.namespaceDot.toList <:+: (renderAll settings declarations).toList := by
  obtain ⟨declaration, listed, type, isType, reference, global, within⟩ := refer
  have inType := infix_render (getLast?_namespaceDot named) within (infix_of_isGlobal global)
  exact inType.trans ((infix_declaration isType).trans
    (infix_intercalate "\n\n" (List.mem_map_of_mem listed)))

/-- Where all other texts are clear of the mark of the global module, it is written only if
declarations refer there. -/
theorem referToGlobal_of_infix (named : settings.namespacedImportName ≠ "")
    (clear : ∀ declaration ∈ declarations,
      declaration.IsClearOf settings settings.namespaceDot.toList)
    (occurs : settings.namespaceDot.toList <:+: (renderAll settings declarations).toList) :
    ReferToGlobal declarations := by
  have ends := getLast?_namespaceDot named
  by_contra none
  have all : IsClearOf settings.namespaceDot.toList (renderAll settings declarations).toList := by
    refine .intercalate_text (isClearOf_of_not_mem ends (by decide)) ?_
    rw [List.forall_mem_map]
    intro declaration listed
    obtain ⟨own, types⟩ := clear declaration listed
    refine isClearOf_declaration ends own fun type isType =>
      isClearOf_render ends (types type isType) fun part within => ?_
    rw [Bool.eq_false_iff]
    exact fun global => none ⟨declaration, listed, type, isType, part, global, within⟩
  have empty := List.infix_nil.mp (all [] occurs)
  rw [empty] at ends
  cases ends

end SelectionTypes.TypeScript
