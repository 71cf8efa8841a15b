import SelectionTypes.Naming.TypeNames
import SelectionTypes.Proofs.Naming.CaseStyle
import SelectionTypes.Proofs.Text.Parts

/-!
# `SelectionTypes.Proofs.Naming.Identifiers`: converted names that are identifiers

The names of documents are identifiers, and converted names should be. Two things can go wrong: a
style writes a character that names do not have, or it takes the underscore away that keeps a name
from being empty or from beginning with a digit.

The first does not happen in the styles that put nothing but underscores between words
(`forall_convert`). The second does not happen where underscores are kept, because the parts between
them are converted one by one (`isIdentifier_of_parts`). Where a style treats the underscores, it
does happen, but only to names that have no letter right behind those at the beginning. The main
statement `isIdentifier_identifier_iff` has all cases.

A type is named by a converted name between a prefix and a suffix, and `isIdentifier_typeNameWith`
says when that is an identifier.
-/

set_option autoImplicit false

namespace SelectionTypes

open Lexeme (isNameStart isNamePart)

/-- A text that is made as a name of a document is: of letters, digits and underscores, with no
digit at its beginning. -/
def IsIdentifier (text : String) : Prop :=
  text.toList.head?.any isNameStart ∧ text.toList.all isNamePart

instance (text : String) : Decidable (IsIdentifier text) :=
  inferInstanceAs (Decidable (_ ∧ _))

/-- More characters of names leave an identifier one. -/
theorem IsIdentifier.append {text more : String} (isIdentifier : IsIdentifier text)
    (made : more.toList.all isNamePart) : IsIdentifier (text ++ more) := by
  obtain ⟨start, named⟩ := isIdentifier
  have filled : text.toList ≠ [] := by
    rintro none
    rw [none] at start
    cases start
  unfold IsIdentifier
  rw [String.toList_append, List.head?_append_of_ne_nil _ filled, List.all_append, named, made]
  exact ⟨start, rfl⟩

namespace CaseStyle

/-- The styles that put nothing but underscores between words. -/
def plain : List CaseStyle :=
  [keep, camel, pascal, snake, upperSnake, flat]

variable {style : CaseStyle} {name : String}

/-- What a plain style puts between words may stand in a name. -/
theorem isNamePart_of_mem_join (isPlain : style ∈ plain) {rules : Rules}
    (ruled : style.rules? = some rules) : ∀ c ∈ rules.join, isNamePart c := by
  have each : ∀ style ∈ plain, ∀ rules ∈ style.rules?, rules.join.all isNamePart := by decide
  exact List.all_eq_true.mp (each style isPlain rules ruled)

/-- A style writes a name with its characters and underscores. -/
theorem forall_convert (isPlain : style ∈ plain) (named : ∀ c ∈ name.toList, isNamePart c) :
    ∀ c ∈ (style.convert name).toList, isNamePart c :=
  forall_convert_of
    (fun _ ruled => Rules.allows_isNamePart (isNamePart_of_mem_join isPlain ruled))
    (fun _ => named) named

/-- What a style writes for a name begins with a letter exactly if the first character of the name
that is no underscore is one. -/
theorem begins_convert (isPlain : style ∈ plain) (other : style ≠ keep)
    (named : ∀ c ∈ name.toList, isNamePart c) :
    (style.convert name).toList.head?.any isNameStart =
      (name.toList.find? (· != '_')).any isNameStart := by
  unfold convert
  cases ruled : style.rules? with
  | none => cases style <;> first | exact absurd rfl other | cases ruled
  | some rules =>
    rw [String.toList_ofList]
    -- A name of underscores loses all of them, and then nothing is left to begin with.
    cases isFirst : name.toList.find? (· != '_') with
    | none => rw [Rules.apply_of_underscores named isFirst]; rfl
    | some c =>
      obtain ⟨image, rest, written, ⟨d, rfl, -, start⟩, -⟩ :=
        Rules.beginsAs_apply (isNamePart_of_mem_join isPlain ruled) named isFirst
      rw [written, Option.any_some, ← start]
      rfl

/-- A style keeps a letter at the beginning. -/
theorem begins_convert_of_letter (isPlain : style ∈ plain) (named : ∀ c ∈ name.toList, isNamePart c)
    {c : Char} (isFirst : name.toList.head? = some c) (start : isNameStart c) (other : c ≠ '_') :
    (style.convert name).toList.head?.any isNameStart := by
  by_cases keeps : style = keep
  · rw [keeps]
    change name.toList.head?.any isNameStart
    rwa [isFirst]
  · obtain ⟨rest, chars⟩ := List.head?_eq_some_iff.mp isFirst
    rw [begins_convert isPlain keeps named, chars, List.find?_cons_of_pos (by simpa using other)]
    exact start

end CaseStyle

namespace Settings

variable {settings : Settings} {name : String}

/-- A converted name is made of underscores and of what the rules of its style allow. -/
theorem forall_identifier_of {P : Char → Prop}
    (allows : ∀ rules ∈ settings.namingConvention.rules?, rules.Allows P) (underscore : P '_')
    (keeps : settings.namingConvention.rules? = none → ∀ c ∈ name.toList, P c)
    (named : ∀ c ∈ name.toList, isNamePart c) : ∀ c ∈ (settings.identifier name).toList, P c := by
  unfold identifier
  split
  · exact CaseStyle.forall_convert_of allows keeps named
  · rw [String.toList_intercalate]
    refine Text.forall_intercalate (List.forall_mem_singleton.mpr underscore) ?_
    rw [List.map_map, List.forall_mem_map]
    intro part isPart
    -- The characters of a part are characters of the name.
    have own : ∀ c ∈ (String.ofList part).toList, c ∈ name.toList := by
      rw [String.toList_ofList]
      exact fun c inside => Text.mem_of_mem_partsBetween isPart inside
    exact CaseStyle.forall_convert_of allows (fun kept c inside => keeps kept c (own c inside))
      fun c inside => named c (own c inside)

/-- A name whose parts are converted one by one is an identifier. -/
theorem isIdentifier_of_parts (isName : IsIdentifier name)
    (isPlain : settings.namingConvention ∈ CaseStyle.plain)
    (kept : ¬ settings.transformUnderscore = true) : IsIdentifier (settings.identifier name) := by
  obtain ⟨start, named⟩ := isName
  rw [List.all_eq_true] at named
  unfold identifier
  rw [if_neg kept]
  refine ⟨?_, ?_⟩
  · rcases chars : name.toList with _ | ⟨c, rest⟩
    · rw [chars] at start
      cases start
    rw [chars] at start named
    by_cases isUnderscore : c = '_'
    · -- The underscore stays, since nothing is written for the empty part in front of it.
      rw [isUnderscore, Text.partsBetween, if_pos (beq_self_eq_true '_'), List.map_cons,
        String.intercalate_cons_of_ne_nil
          (mt List.map_eq_nil_iff.mp (Text.partsBetween_ne_nil '_' rest)),
        CaseStyle.convert_empty, String.empty_append, String.toList_append]
      rfl
    · -- The first part begins with a letter, and so does what is written for it.
      obtain ⟨part, parts, split⟩ := Text.exists_partsBetween_cons rest isUnderscore
      have own : ∀ d ∈ (String.ofList (c :: part)).toList, isNamePart d := by
        rw [String.toList_ofList]
        exact fun d inside => named d
          (Text.mem_of_mem_partsBetween (split ▸ List.mem_cons_self) inside)
      have begins := CaseStyle.begins_convert_of_letter isPlain own
        (congrArg List.head? String.toList_ofList) start isUnderscore
      have filled : settings.namingConvention.convert (String.ofList (c :: part)) ≠ "" := by
        intro none
        rw [none] at begins
        cases begins
      rw [split, List.map_cons, head?_intercalate "_" _ filled]
      exact begins
  · rw [List.all_eq_true]
    have made := @forall_identifier_of settings name (fun c => isNamePart c) (fun _ ruled =>
      CaseStyle.Rules.allows_isNamePart (CaseStyle.isNamePart_of_mem_join isPlain ruled))
      (by decide) (fun _ => named) named
    rwa [identifier, if_neg kept] at made

/-- A converted name is made as names are. It is an identifier, unless a style treats its
underscores and there is no letter behind those that it begins with. -/
theorem isIdentifier_identifier_iff (isName : IsIdentifier name)
    (isPlain : settings.namingConvention ∈ CaseStyle.plain) :
    (settings.identifier name).toList.all isNamePart ∧
      (IsIdentifier (settings.identifier name) ↔
        (settings.transformUnderscore = true → settings.namingConvention ≠ .keep →
          (name.toList.find? (· != '_')).any isNameStart)) := by
  -- If underscores are kept, nothing can go wrong. If not, the style decides about the beginning.
  by_cases treated : settings.transformUnderscore = true
  · have converted : settings.identifier name = settings.namingConvention.convert name :=
      if_pos treated
    rw [converted]
    have named := List.all_eq_true.mp isName.2
    have made := List.all_eq_true.mpr (CaseStyle.forall_convert isPlain named)
    refine ⟨made, ?_⟩
    by_cases keeps : settings.namingConvention = .keep
    · rw [keeps]
      exact iff_of_true isName fun _ other => absurd rfl other
    · unfold IsIdentifier
      rw [CaseStyle.begins_convert isPlain keeps named, and_iff_left made]
      exact ⟨fun begins _ _ => begins, fun begins => begins treated keeps⟩
  · have isIdentifier := isIdentifier_of_parts isName isPlain treated
    exact ⟨isIdentifier.2, iff_of_true isIdentifier fun treats => absurd treats treated⟩

/-- The style treats the underscores of a name with a letter behind them. -/
theorem isIdentifier_identifier_underscores :
    IsIdentifier (identifier { namingConvention := .snake, transformUnderscore := true }
      "__petName_1") :=
  (@isIdentifier_identifier_iff { namingConvention := .snake, transformUnderscore := true }
    "__petName_1" (by decide) (by decide)).2.mpr fun _ _ => by decide

/-- A style that treats underscores writes a digit for a name of an underscore and a digit, and
nothing for an underscore. -/
theorem not_isIdentifier_identifier :
    IsIdentifier "_1" ∧ identifier { transformUnderscore := true } "_1" = "1" ∧
      ¬ IsIdentifier (identifier { transformUnderscore := true } "_1") ∧
      IsIdentifier "_" ∧ identifier { transformUnderscore := true } "_" = "" ∧
      ¬ IsIdentifier (identifier { transformUnderscore := true } "_") := by
  decide

/-! ### Names of types -/

/-- The name of a type is an identifier if the converted name is one, and if the prefix and the
suffix of the settings fit. -/
theorem isIdentifier_typeNameWith (withPrefix withSuffix : Bool)
    (own : IsIdentifier (settings.identifier name))
    (opens : settings.typesPrefix = "" ∨ IsIdentifier settings.typesPrefix)
    (closes : settings.typesSuffix.toList.all isNamePart) :
    IsIdentifier (settings.typeNameWith withPrefix withSuffix name) := by
  -- The prefix, if there is one, is an identifier that the converted name is put behind.
  have opened : IsIdentifier
      ((if withPrefix then settings.typesPrefix else "") ++ settings.identifier name) := by
    rcases withPrefix with _ | _
    · exact own
    · rcases opens with none | isPrefix
      · rw [if_pos rfl, none, String.empty_append]
        exact own
      · exact isPrefix.append own.2
  unfold typeNameWith
  refine opened.append ?_
  split
  · exact closes
  · rfl

end Settings

end SelectionTypes
