import SelectionTypes.Text.Lines
import SelectionTypes.Text.Occurrence
import SelectionTypes.TypeScript.TypeExpr

/-!
# `SelectionTypes.TypeScript.Declaration`: declarations and modules

A declaration gives a name to a type, to the properties of an object, or to the members of an
enum. A module is made of the lines that come first, such as imports, and of its declarations with
a blank line between them.
-/

set_option autoImplicit false

namespace SelectionTypes.TypeScript

/-- A member of an enum. -/
structure EnumMember where
  name : String
  value : String
  description : Option String := none
  deriving Repr, DecidableEq

/-- A declaration. -/
inductive Declaration where
  /-- A name for a type. -/
  | typeAlias (name : String) (type : TypeExpr)
  /-- A name for everything that several shapes have in common. -/
  | intersection (name : String) (shapes : List TypeExpr)
  /-- An object type with one property on each line. -/
  | object (name : String) (description : Option String) (properties : List Property)
  /-- An enum, whose name is made from the name in the schema. -/
  | enum (name : String) (description : Option String) (members : List EnumMember)
  deriving Repr, BEq

/-- Puts a line with a comment in front of a line, unless the comment is absent or empty. -/
def commented (indent : String) (description : Option String) (line : String) : List String :=
  match description with
  | some text => if text.isEmpty then [line] else [indent ++ "/** " ++ text ++ " */", line]
  | none => [line]

/-- The declaration of a type alias. -/
def aliasText (name type : String) : String :=
  "export type " ++ name ++ " = " ++ type ++ ";"

/-- The declaration of an object type. -/
def objectText (name : String) (description : Option String)
    (properties : List (PropertyHead × String)) : String :=
  let lines := properties.flatMap fun (head, type) =>
    commented "  " head.description ("  " ++ head.render type ++ ";")
  "\n".intercalate
    (commented "" description ("export type " ++ name ++ " = \x7b") ++ lines ++ ["\x7d;"])

/-- The lines of the members of an enum, with commas between them. -/
def memberLines : List EnumMember → List String
  | [] => []
  | member :: members =>
    commented "  " member.description
        ("  " ++ member.name ++ " = '" ++ member.value ++ "'"
          ++ (if members.isEmpty then "" else ","))
      ++ memberLines members

/-- The declaration of an enum. -/
def enumText (name : String) (description : Option String) (members : List EnumMember) : String :=
  "\n".intercalate
    (commented "" description ("export enum " ++ name ++ " \x7b") ++ memberLines members
      ++ ["\x7d"])

/-- A part of an intersection: in parentheses if it is a union of names. -/
def intersectionPart (text : String) : String :=
  -- The bars of an object are inside its braces.
  if Text.occursIn " | ".toList text.toList && text.toList.head? != some '{' then
    "(" ++ text ++ ")"
  else text

/-- The written form of an intersection of written shapes. -/
def intersectionText (shapes : List String) : String :=
  match shapes with
  | [shape] => shape
  | shapes => " & ".intercalate (shapes.map intersectionPart)

namespace Declaration

/-- The written form of a declaration. -/
def render (settings : Settings) : Declaration → String
  | .typeAlias name type => aliasText name (type.render settings)
  | .intersection name shapes =>
    aliasText name (intersectionText (shapes.map (TypeExpr.render settings)))
  | .object name description properties =>
    objectText name description
      (properties.map fun (head, type) => (head, type.render settings))
  | .enum name description members =>
    enumText (settings.enumName name) description members

end Declaration

/-- Declarations with a blank line between them. -/
def renderAll (settings : Settings) (declarations : List Declaration) : String :=
  "\n\n".intercalate (declarations.map (Declaration.render settings))

/-- The import of types by name. -/
def importText (imported : TypeImport) : String :=
  "import type \x7b " ++ ", ".intercalate imported.identifiers ++ " \x7d from '" ++ imported.path
    ++ "';"

/-- The lines that import the global module, if it has a name and a path, and types by name. -/
def importLines (globalName : String) (globalPath : Option String) (imports : List TypeImport) :
    List String :=
  let path := globalPath.getD ""
  let global :=
    if globalName.isEmpty || path.isEmpty then []
    else ["import * as " ++ globalName ++ " from '" ++ path ++ "';"]
  Text.lines (String.join ((global ++ imports.map importText).map fun line => line ++ "\n"))

/-- The text of a module. -/
structure ModuleText where
  /-- What comes first, line by line. -/
  opening : List String := []
  /-- The declarations. -/
  content : String := ""
  deriving Repr, DecidableEq

namespace ModuleText

/-- The whole text. -/
def text (module : ModuleText) : String :=
  if module.opening.isEmpty then module.content
  else "\n".intercalate module.opening ++ "\n\n" ++ module.content

end ModuleText

end SelectionTypes.TypeScript
