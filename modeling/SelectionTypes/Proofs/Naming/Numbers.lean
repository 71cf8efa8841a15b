import Mathlib
import SelectionTypes.Naming.TypeNames
import SelectionTypes.Proofs.Naming.CaseStyle
import SelectionTypes.Proofs.Text.Parts

/-!
# `SelectionTypes.Proofs.Naming.Numbers`: names with numbers

An operation without a name is called by its number. No style changes a digit, so the type of such
an operation has the number in its name, between two texts that are the same for all numbers
(`exists_operationTypeName_numbered`). Even if digits follow in the suffix of the settings, the
number can be read off a text that goes on with anything but digits
(`eq_of_operationTypeName_append`).
-/

set_option autoImplicit false

namespace SelectionTypes

open Lexeme (isNameStart isNamePart)

/-- The name of the operation with a number. -/
def numberedName (number : Nat) : String :=
  "Unnamed_" ++ toString number ++ "_"

variable {digits : List Char}

/-! ### Digits in styles -/

namespace CaseStyle

/-- A digit has no letter case. -/
theorem digit_spec {c : Char} (isDigit : c.isDigit) :
    isWordChar c ∧ Text.upperChar c = [c] ∧ Text.lowerChar c = [c] ∧ Text.isUpper c = false := by
  have named : isNamePart c := Bool.or_eq_true_iff.mpr (.inr isDigit)
  exact forall_of_isNamePart (P := fun c => c.isDigit → isWordChar c ∧ Text.upperChar c = [c] ∧
    Text.lowerChar c = [c] ∧ Text.isUpper c = false) (by decide +kernel) named isDigit

/-- A word in front of a text stays as it is. -/
theorem squeeze_append {word : List Char} (words : ∀ c ∈ word, isWordChar c) (rest : List Char) :
    squeeze (word ++ rest) = word ++ squeeze rest := by
  induction word with
  | nil => rfl
  | cons c word ih =>
    rw [List.forall_mem_cons] at words
    rw [List.cons_append, squeeze, if_neg (isSeparator_of_isWordChar words.1), ih words.2,
      List.cons_append]

/-- A text that begins and ends with letters or digits loses the separators behind it. -/
theorem trim_append {first last : Char} {rest front behind : List Char}
    (ends : first :: rest = front ++ [last]) (isFirst : isWordChar first) (isLast : isWordChar last)
    (separates : ∀ c ∈ behind, isSeparator c) :
    trim (first :: rest ++ behind) = first :: rest := by
  unfold trim
  rw [List.cons_append, List.dropWhile_cons_of_neg (isSeparator_of_isWordChar isFirst),
    ← List.cons_append, ends, List.reverse_append, List.reverse_concat,
    List.dropWhile_append_of_pos fun c listed => separates c (List.mem_reverse.mp listed),
    List.dropWhile_cons_of_neg (isSeparator_of_isWordChar isLast), List.reverse_cons,
    List.reverse_reverse]

/-- Digits are letters or digits. -/
theorem isWordChar_of_mem_digits (areDigits : ∀ c ∈ digits, c.isDigit) :
    ∀ c ∈ digits, isWordChar c :=
  fun c listed => (digit_spec (areDigits c listed)).1

/-- Squeezing leaves digits as they are. -/
theorem squeeze_digits (areDigits : ∀ c ∈ digits, c.isDigit) : squeeze digits = digits := by
  have words := isWordChar_of_mem_digits areDigits
  have squeezed := squeeze_append words []
  rwa [squeeze, List.append_nil] at squeezed

/-- Digits are regular. -/
theorem regular_digits (areDigits : ∀ c ∈ digits, c.isDigit) : regular digits = digits := by
  have words := isWordChar_of_mem_digits areDigits
  rw [regular_of_named fun c listed => isNamePart_of_isWordChar (words c listed)]
  rcases digits with _ | ⟨first, rest⟩
  · rfl
  obtain ⟨front, last, ends⟩ := (List.eq_nil_or_concat' _).resolve_left
    (List.cons_ne_nil first rest)
  have isLast : isWordChar last := words last (by rw [ends]; exact List.mem_concat_self)
  have trimmed := trim_append ends (words first List.mem_cons_self) isLast (List.forall_mem_nil _)
  rw [List.append_nil] at trimmed
  rw [trimmed, squeeze_digits areDigits]

/-- The regular form of a name with a number. -/
theorem regular_numbered (areDigits : ∀ c ∈ digits, c.isDigit) (filled : digits ≠ []) :
    regular ("Unnamed_".toList ++ digits ++ ['_']) = "Unnamed".toList ++ ' ' :: digits := by
  have words := isWordChar_of_mem_digits areDigits
  have named : ∀ c ∈ "Unnamed_".toList ++ digits ++ ['_'], isNamePart c := by
    rw [List.forall_mem_append, List.forall_mem_append]
    exact ⟨⟨List.all_eq_true.mp (by decide), fun c listed =>
      isNamePart_of_isWordChar (words c listed)⟩, List.forall_mem_singleton.mpr (by decide)⟩
  obtain ⟨front, last, ends⟩ := (List.eq_nil_or_concat' digits).resolve_left filled
  have isLast : isWordChar last := words last (by rw [ends]; exact List.mem_concat_self)
  have whole : 'U' :: ("nnamed_".toList ++ digits) = "Unnamed_".toList ++ front ++ [last] := by
    rw [ends, List.append_assoc]
    rfl
  -- The underscore at the end is left out, and the other one becomes a space.
  have trimmed : trim ("Unnamed_".toList ++ digits ++ ['_']) = "Unnamed_".toList ++ digits :=
    trim_append whole (by decide) isLast (List.forall_mem_singleton.mpr (by decide))
  have squeezed : squeeze ('_' :: digits) = ' ' :: digits := by
    rw [squeeze, if_pos (by decide), squeeze_digits areDigits]
    split
    · next spaced => exact absurd (words ' ' List.mem_cons_self) (by decide)
    · rfl
  rw [regular_of_named named, trimmed]
  change squeeze ("Unnamed".toList ++ '_' :: digits) = _
  rw [squeeze_append (List.all_eq_true.mp (by decide)), squeezed]

namespace Rules

variable {rules : Rules} {before : Option Char}

/-- Digits are written as they are. -/
theorem scan_digits (areDigits : ∀ c ∈ digits, c.isDigit) : rules.scan before digits = digits := by
  induction digits generalizing before with
  | nil => rfl
  | cons c digits ih =>
    rw [List.forall_mem_cons] at areDigits
    obtain ⟨word, upper, lower, small⟩ := digit_spec areDigits.1
    -- A digit is no capital, so it never opens a word, and it has no other case.
    have opens : ¬ rules.opens before c = true := by
      cases before <;> simp [opens, small]
    have body : rules.body c = [c] := by
      unfold body
      rw [upper, lower, ite_self]
    rw [scan_cons digits (not_blank_of_isWordChar word), if_neg opens, body, ih areDigits.2]
    rfl

/-- A word is written before the space behind it. -/
theorem scan_append_space {word : List Char} (words : ∀ c ∈ word, isWordChar c) (next : Char)
    (rest : List Char) :
    rules.scan before (word ++ ' ' :: next :: rest) =
      rules.scan before word ++ (rules.join ++ rules.head next ++ rules.scan (some ' ') rest) := by
  induction word generalizing before with
  | nil => rw [scan]; rfl
  | cons c word ih =>
    rw [List.forall_mem_cons] at words
    rw [List.cons_append, scan_cons _ (not_blank_of_isWordChar words.1), ih words.2,
      scan_cons _ (not_blank_of_isWordChar words.1)]
    exact (List.append_assoc _ _ _).symm

/-- The first word is written before the space behind it. -/
theorem write_append_space {c : Char} {word : List Char} (words : ∀ d ∈ c :: word, isWordChar d)
    (next : Char) (rest : List Char) :
    rules.write (c :: word ++ ' ' :: next :: rest) =
      rules.write (c :: word) ++ (rules.join ++ rules.head next ++ rules.scan (some ' ') rest) := by
  unfold write
  cases rules.capital
  · exact scan_append_space words next rest
  · change Text.upperChar c ++ rules.scan none (word ++ ' ' :: next :: rest) = _
    rw [scan_append_space (List.forall_mem_cons.mp words).2, ← List.append_assoc]

/-- Digits are written as they are. -/
theorem apply_digits (areDigits : ∀ c ∈ digits, c.isDigit) : rules.apply digits = digits := by
  -- Without a capital a text is not one in capitals, so it is not put into lower case first.
  have small : ¬ Text.isAllUpper digits = true := by
    have none : digits.any Text.isUpper = false := List.any_eq_false.mpr fun c listed =>
      ne_true_of_eq_false (digit_spec (areDigits c listed)).2.2.2
    simp [Text.isAllUpper, none]
  unfold apply
  rw [regular_digits areDigits, if_neg small]
  unfold write
  split
  · next c rest capital =>
    rw [List.forall_mem_cons] at areDigits
    rw [(digit_spec areDigits.1).2.1, scan_digits areDigits.2]
    rfl
  · exact scan_digits areDigits

/-- A name with a number is written with the number at the end. -/
theorem apply_numbered (areDigits : ∀ c ∈ digits, c.isDigit) (filled : digits ≠ []) :
    rules.apply ("Unnamed_".toList ++ digits ++ ['_']) =
      rules.write "Unnamed".toList ++ rules.join ++ digits := by
  -- The small letters of the word keep the name from being read as one in capitals.
  have small : ¬ Text.isAllUpper ("Unnamed".toList ++ ' ' :: digits) = true := by
    have isSmall : ("Unnamed".toList ++ ' ' :: digits).any
        (fun c => Text.isLower c || Text.isTitle c) = true := by
      rw [List.any_append]
      exact Bool.or_eq_true_iff.mpr (.inl (by decide))
    simp only [Text.isAllUpper, isSmall, Bool.not_true, Bool.and_false, Bool.false_eq_true,
      not_false_eq_true]
  unfold apply
  rw [regular_numbered areDigits filled, if_neg small]
  obtain ⟨next, rest, rfl⟩ := List.exists_cons_of_ne_nil filled
  rw [List.forall_mem_cons] at areDigits
  have head : rules.head next = [next] := by
    unfold head
    rw [(digit_spec areDigits.1).2.1, (digit_spec areDigits.1).2.2.1, ite_self]
  have written := @write_append_space rules 'U' "nnamed".toList
    (List.all_eq_true.mp (by decide)) next rest
  rw [head, scan_digits areDigits.2, List.append_assoc] at written
  rw [List.append_assoc]
  exact written

end Rules

/-- Digits are written as they are. -/
theorem convert_digits (style : CaseStyle) (areDigits : ∀ c ∈ digits, c.isDigit) :
    style.convert (String.ofList digits) = String.ofList digits := by
  unfold convert
  split
  · rfl
  · rw [String.toList_ofList, Rules.apply_digits areDigits]

end CaseStyle

/-! ### Reading a number -/

/-- A text that comes back behind a shift is made of what it is shifted by. -/
theorem mem_of_shifted {shift shared rest rest' : List Char} (filled : shift ≠ [])
    (same : shared ++ rest = shift ++ (shared ++ rest')) : ∀ c ∈ shared, c ∈ shift := by
  rcases List.append_eq_append_iff.mp same with ⟨more, isShift, -⟩ | ⟨more, isShared, again⟩
  · exact fun c inside => isShift ▸ List.mem_append_left more inside
  · -- Without the shift at its beginning, the text is shorter and comes back in the same way.
    subst isShared
    rw [List.append_assoc] at again
    have shorter : more.length < (shift ++ more).length := by
      rw [List.length_append]
      have := List.length_pos_iff.mpr filled
      omega
    exact List.forall_mem_append.mpr ⟨fun c inside => inside, mem_of_shifted filled again.symm⟩
termination_by shared.length

/-- Digits in front of a shared text that is not made of digits can be told from it. -/
theorem digits_append_inj {first second shared rest rest' : List Char}
    (areDigits : ∀ c ∈ first, c.isDigit) (areDigits' : ∀ c ∈ second, c.isDigit)
    (closed : ∃ c ∈ shared, ¬ c.isDigit)
    (same : first ++ (shared ++ rest) = second ++ (shared ++ rest')) : first = second := by
  obtain ⟨c, inside, noDigit⟩ := closed
  have noShift {digits shift rest rest' : List Char} (areDigits : ∀ c ∈ digits ++ shift, c.isDigit)
      (shifted : shared ++ rest = shift ++ (shared ++ rest')) : shift = [] := by
    by_contra filled
    exact noDigit (areDigits c
      (List.mem_append_right digits (mem_of_shifted filled shifted c inside)))
  rcases List.append_eq_append_iff.mp same with ⟨shift, rfl, shifted⟩ | ⟨shift, rfl, shifted⟩
  · rw [noShift areDigits' shifted, List.append_nil]
  · rw [noShift areDigits shifted, List.append_nil]

/-! ### Names of operations -/

namespace Settings

variable {settings : Settings}

/-- A number is written with digits. -/
theorem isDigit_of_mem_toString (number : Nat) : ∀ c ∈ (toString number).toList, c.isDigit := by
  intro c listed
  rw [Nat.toString_eq_repr, Nat.toList_repr] at listed
  exact Nat.isDigit_of_mem_toDigits (by decide) (by decide) listed

/-- A number is written with at least one digit. -/
theorem toList_toString_ne_nil {number : Nat} : (toString number).toList ≠ [] := by
  rw [Nat.toString_eq_repr, Nat.toList_repr]
  exact Nat.toDigits_ne_nil

/-- The name of an operation without a name has its number between underscores. -/
theorem toList_numberedName (number : Nat) :
    (numberedName number).toList = "Unnamed_".toList ++ (toString number).toList ++ ['_'] := by
  unfold numberedName
  rw [String.toList_append, String.toList_append]
  rfl

/-- The parts of a name with a number. -/
theorem partsBetween_numberedName (number : Nat) :
    Text.partsBetween '_' (numberedName number).toList =
      ["Unnamed".toList, (toString number).toList, []] := by
  have apart : ∀ part ∈ ["Unnamed".toList, (toString number).toList, []], '_' ∉ part := by
    refine List.forall_mem_cons.mpr ⟨by decide, List.forall_mem_cons.mpr ⟨fun inside => ?_, ?_⟩⟩
    · exact absurd (isDigit_of_mem_toString number '_' inside) (by decide)
    · exact List.forall_mem_singleton.mpr List.not_mem_nil
  rw [toList_numberedName, ← Text.partsBetween_intercalate apart (List.cons_ne_nil _ _)]
  congr 1

/-- A converted name has the number between two texts that are the same for all numbers. -/
theorem exists_identifier_numbered (settings : Settings) :
    ∃ before after, ∀ number,
      (settings.identifier (numberedName number)).toList =
        before ++ (toString number).toList ++ after := by
  unfold identifier
  by_cases treated : settings.transformUnderscore = true
  · -- The underscores are treated by the style, so only a style without rules keeps them.
    cases ruled : settings.namingConvention.rules? with
    | none =>
      refine ⟨"Unnamed_".toList, ['_'], fun number => ?_⟩
      rw [if_pos treated, CaseStyle.convert, ruled]
      exact toList_numberedName number
    | some rules =>
      refine ⟨rules.write "Unnamed".toList ++ rules.join, [], fun number => ?_⟩
      rw [if_pos treated, CaseStyle.convert, ruled, String.toList_ofList, toList_numberedName,
        CaseStyle.Rules.apply_numbered (isDigit_of_mem_toString number) toList_toString_ne_nil,
        List.append_nil]
  · -- The parts between the underscores are converted one by one, and the number is one of them.
    refine ⟨(settings.namingConvention.convert "Unnamed").toList ++ ['_'], ['_'], fun number => ?_⟩
    have own := CaseStyle.convert_digits settings.namingConvention
      (isDigit_of_mem_toString number)
    have empty : settings.namingConvention.convert (String.ofList []) = "" :=
      CaseStyle.convert_empty _
    rw [String.ofList_toList] at own
    rw [if_neg treated, partsBetween_numberedName]
    simp only [List.map_cons, List.map_nil, String.intercalate_cons_cons,
      String.intercalate_singleton, String.ofList_toList, own, empty, String.toList_append,
      List.append_assoc]
    rfl

/-- A name with a number does not end in the suffix of a kind. -/
theorem not_isSuffixOf_numberedName (kind : OperationKind) (number : Nat) :
    kind.suffix.toList.isSuffixOf (numberedName number).toList = false := by
  refine Bool.eq_false_iff.mpr fun ends => ?_
  obtain ⟨front, same⟩ := List.isSuffixOf_iff_suffix.mp ends
  have last := congrArg List.getLast? same
  rw [toList_numberedName, List.getLast?_concat, List.getLast?_append] at last
  cases kind <;> cases last

/-- The name of a type has the number between two texts that are the same for all numbers. -/
theorem exists_operationTypeName_numbered (settings : Settings) (kind : OperationKind) :
    ∃ before after, ∀ number,
      (settings.operationTypeName kind (numberedName number)).toList =
        before ++ (toString number).toList ++ after := by
  obtain ⟨before, after, converted⟩ := exists_identifier_numbered settings
  refine ⟨settings.typesPrefix.toList ++ before, after ++ settings.typesSuffix.toList ++
    (if settings.omitOperationSuffix then "" else kind.suffix).toList, fun number => ?_⟩
  unfold operationTypeName suffixedName typeName typeNameWith
  simp only [not_isSuffixOf_numberedName, Bool.and_false, Bool.or_false, if_true,
    String.toList_append, converted, List.append_assoc]

/-- The number can be read off a text that begins with the name of a type, if what follows is not
all digits. -/
theorem eq_of_operationTypeName_append (settings : Settings) (kind : OperationKind)
    {number other : Nat} {shared rest rest' : List Char} (closed : ∃ c ∈ shared, ¬ c.isDigit)
    (same : (settings.operationTypeName kind (numberedName number)).toList ++ (shared ++ rest) =
      (settings.operationTypeName kind (numberedName other)).toList ++ (shared ++ rest')) :
    number = other := by
  obtain ⟨before, after, named⟩ := exists_operationTypeName_numbered settings kind
  rw [named, named] at same
  simp only [List.append_assoc, List.append_cancel_left_eq] at same
  rw [← List.append_assoc after, ← List.append_assoc after] at same
  obtain ⟨c, inside, noDigit⟩ := closed
  have digits := digits_append_inj (isDigit_of_mem_toString number) (isDigit_of_mem_toString other)
    ⟨c, List.mem_append_right after inside, noDigit⟩ same
  rw [String.toList_inj, Nat.toString_eq_repr, Nat.toString_eq_repr, Nat.repr_inj] at digits
  exact digits

end Settings

end SelectionTypes
