import SelectionTypes.Document.Basic

/-!
# `SelectionTypes.TypeScript.Nullability`: list and null marks on a written type

A type reference wraps the written form of its base in two passes. Every name and every list first
takes the mark ` | null`, and a non-null mark then takes one such mark away again. `directWrap` is
the reading in one pass: the mark stands where no non-null mark is.
-/

set_option autoImplicit false

namespace SelectionTypes.TypeScript

/-- What a type that can be null ends in. -/
def nullMark : String :=
  " | null"

/-- Adds the mark of a type that can be null. -/
def addNull (text : String) : String :=
  text ++ nullMark

/-- Takes one mark away, if the text ends in one. -/
def clearNull (text : String) : String :=
  if nullMark.toList.isSuffixOf text.toList then
    String.ofList (text.toList.take (text.toList.length - nullMark.toList.length))
  else text

/-- The name of the list type. -/
def listName (immutable : Bool) : String :=
  if immutable then "ReadonlyArray" else "Array"

/-- A list of a written type. -/
def listText (immutable : Bool) (text : String) : String :=
  listName immutable ++ "<" ++ text ++ ">"

/-- The written form of a type reference around the written form of its base. -/
def wrap (immutable : Bool) (base : String) : TypeRef → String
  | .named _ => addNull base
  | .list of => addNull (listText immutable (wrap immutable base of))
  | .nonNull of => clearNull (wrap immutable base of)

/-- The written form in one pass, where `nullable` says whether the mark stands here. -/
def directWrap (immutable : Bool) (base : String) (nullable : Bool) : TypeRef → String
  | .named _ => if nullable then addNull base else base
  | .list of =>
    let text := listText immutable (directWrap immutable base true of)
    if nullable then addNull text else text
  | .nonNull of => directWrap immutable base false of

end SelectionTypes.TypeScript
