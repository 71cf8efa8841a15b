import SelectionTypes.Generation.References
import SelectionTypes.Schema.Writing
import SelectionTypes.Text.Comment
import SelectionTypes.TypeScript.Declaration

/-!
# `SelectionTypes.Generation.GlobalTypes`: the module of scalars and enums

The global module begins with the table of scalars. The enums of the schema follow in order. A
member of an enum has a name in the style of the settings, and its value is its name in the
schema.
-/

set_option autoImplicit false

namespace SelectionTypes

open TypeScript (Declaration EnumMember ModuleText)

namespace Settings

/-- The declaration of the table of scalars. -/
def scalarsText (table : List (String × ScalarTypes)) : String :=
  let lines := table.map fun (name, types) =>
    "  " ++ name ++ ": \x7b input: " ++ types.input ++ "; output: " ++ types.output ++ "; \x7d;"
  "\n".intercalate
    ("/** All built-in and custom scalars, mapped to their actual values */"
      :: "export type Scalars = \x7b" :: lines ++ ["\x7d;"])

/-- The member of an enum for a value of the schema. -/
def enumMember (settings : Settings) (value : EnumValueDefinition) : EnumMember :=
  ⟨settings.identifier value.name, value.name, Text.comment? value.description⟩

/-- The declaration of an enum of the schema, if the definition is one that is not part of
introspection. -/
def enumDeclaration? (settings : Settings) (definition : Definition) : Option Declaration :=
  match definition with
  | .type type =>
    match type.body with
    | .enum values =>
      if isIntrospectionName type.name then none
      else some (.enum type.name (Text.comment? type.description)
        (values.map settings.enumMember))
    | _ => none
  | _ => none

end Settings

namespace Schema

/-- The module of the scalars and enums of a schema. -/
def globalModule (schema : Schema) (settings : Settings) : Except DocumentProblem ModuleText := do
  let document ← schema.document
  let enums := document.definitions.filterMap settings.enumDeclaration?
  return ⟨[Settings.scalarsText (schema.scalarTable settings)],
    TypeScript.renderAll settings enums⟩

end Schema

end SelectionTypes
