import SelectionTypes.Settings.Basic
import SelectionTypes.Settings.Data

/-!
# `SelectionTypes.Settings.Writing`: settings as plain data

`Settings.toData` writes every option under its key in camel case.
-/

set_option autoImplicit false

namespace SelectionTypes

namespace Data

/-- A map with text keys. -/
def ofFields (fields : List (String × Data)) : Data :=
  .map (fields.map fun (key, value) => (.text key, value))

end Data

/-- The type texts of a scalar as data. -/
def ScalarTypes.toData (types : ScalarTypes) : Data :=
  .ofFields [("input", .text types.input), ("output", .text types.output)]

/-- The places where optional marks are avoided, as data. -/
def AvoidOptionals.toData (avoided : AvoidOptionals) : Data :=
  .ofFields [("field", .boolean avoided.field), ("object", .boolean avoided.object),
    ("inputValue", .boolean avoided.inputValue)]

/-- An import as data. -/
def TypeImport.toData (imported : TypeImport) : Data :=
  .ofFields [("path", .text imported.path),
    ("identifiers", .list (imported.identifiers.map .text))]

/-- Settings as data. -/
def Settings.toData (settings : Settings) : Data :=
  .ofFields [
    ("immutableTypes", .boolean settings.immutableTypes),
    ("avoidOptionals", settings.avoidOptionals.toData),
    ("enumPrefix", .boolean settings.enumPrefix),
    ("enumSuffix", .boolean settings.enumSuffix),
    ("typesPrefix", .text settings.typesPrefix),
    ("typesSuffix", .text settings.typesSuffix),
    ("namespacedImportName", .text settings.namespacedImportName),
    ("baseTypesPath", (settings.baseTypesPath.map Data.text).getD .null),
    ("flattenGeneratedTypes", .boolean settings.flattenGeneratedTypes),
    ("scalars", .ofFields (settings.scalars.map fun (name, types) => (name, types.toData))),
    ("namingConvention", .text settings.namingConvention.word),
    ("transformUnderscore", .boolean settings.transformUnderscore),
    ("skipTypename", .boolean settings.skipTypename),
    ("nonOptionalTypename", .boolean settings.nonOptionalTypename),
    ("dedupeOperationSuffix", .boolean settings.dedupeOperationSuffix),
    ("omitOperationSuffix", .boolean settings.omitOperationSuffix),
    ("fragmentImports", .list (settings.fragmentImports.map TypeImport.toData))]

end SelectionTypes
