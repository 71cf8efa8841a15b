import Mathlib.Data.Char
import Mathlib.Data.List.Chain
import Mathlib.Data.List.DropRight
import Mathlib.Data.List.Find
import Mathlib.Data.List.TakeWhile
import SelectionTypes.Document.Lexer
import SelectionTypes.Naming.CaseStyle

/-!
# `SelectionTypes.Proofs.Naming.CaseStyle`: styles of names

A name is made of letters, digits and underscores. Made regular, it is made of words with one space
between them (`isRegular_regular`), and it begins with the first character of the name that is no
underscore (`head?_regular`).

A style writes an image of each letter and digit, which is a letter or a digit, too, and a text of
its own between words. What holds of all that it can write (`Rules.Allows`) holds of what it writes
for a name (`forall_convert_of`). So this is made as names are if the text between words is, and it
begins with an image of the character that the regular text begins with (`beginsAs_apply`). For a
name of underscores a style writes nothing (`apply_of_underscores`).
-/

set_option autoImplicit false

namespace SelectionTypes

open Lexeme (isNameStart isNamePart)

/-! ### Letters and digits -/

/-- A letter or a digit of ASCII. -/
def isWordChar (c : Char) : Bool :=
  isNamePart c && c != '_'

/-- What holds of the characters of ASCII one by one holds of each character of a name. -/
theorem forall_of_isNamePart {P : Char → Prop} (each : ∀ code < 128, P (Char.ofNat code)) {c : Char}
    (named : isNamePart c) : P c := by
  -- The last of the small letters comes behind all of these characters.
  have small : c ≤ 'z' := by
    simp only [isNamePart, isNameStart, Lexeme.isDigit, Bool.or_eq_true, Bool.and_eq_true,
      decide_eq_true_eq, beq_iff_eq] at named
    rcases named with ((⟨-, isSmall⟩ | ⟨-, isCapital⟩) | rfl) | ⟨-, isDigit⟩
    · exact isSmall
    · exact isCapital.trans (by decide)
    · decide
    · exact isDigit.trans (by decide)
  have own := each c.toNat (lt_of_le_of_lt (UInt32.le_iff_toNat_le.mp (Char.le_def.mp small))
    (by decide))
  rwa [Char.ofNat_toNat] at own

/-- An image of a letter or digit: one letter or digit, and a letter exactly if it is one of a
letter. -/
def IsImage (c : Char) (image : List Char) : Prop :=
  ∃ d, image = [d] ∧ isWordChar d ∧ isNameStart d = isNameStart c

variable {c : Char} {text : List Char}

/-- A letter or digit may stand in a name. -/
theorem isNamePart_of_isWordChar (word : isWordChar c) : isNamePart c :=
  (Bool.and_eq_true_iff.mp word).1

/-- A letter or digit is no space. -/
theorem not_blank_of_isWordChar (word : isWordChar c) : ¬ (c == ' ') = true :=
  fun blank => absurd (beq_iff_eq.mp blank ▸ word) (by decide)

/-- A letter or digit is an image of itself. -/
theorem isImage_self (word : isWordChar c) : IsImage c [c] :=
  ⟨c, rfl, word, rfl⟩

/-- A choice between two images is an image. -/
theorem IsImage.ite (flag : Bool) {image other : List Char} (isImage : IsImage c image)
    (isOther : IsImage c other) : IsImage c (if flag then image else other) := by
  cases flag
  · exact isOther
  · exact isImage

/-- In upper case, a letter or digit is one character, which is a letter exactly if it was one.
Outside ASCII a character can have several in upper case. -/
theorem upperChar_of_isWordChar (word : isWordChar c) :
    Text.upperChar c = [c.toUpper] ∧ isWordChar c.toUpper ∧
      isNameStart c.toUpper = isNameStart c :=
  forall_of_isNamePart (P := fun c => isWordChar c → Text.upperChar c = [c.toUpper] ∧
    isWordChar c.toUpper ∧ isNameStart c.toUpper = isNameStart c) (by decide +kernel)
    (isNamePart_of_isWordChar word) word

/-- So its upper case is an image of it. -/
theorem isImage_upperChar (word : isWordChar c) : IsImage c (Text.upperChar c) :=
  ⟨c.toUpper, upperChar_of_isWordChar word⟩

/-- In lower case, a letter or digit is one character as well, and a letter exactly if it was one.
-/
theorem lowerChar_of_isWordChar (word : isWordChar c) :
    Text.lowerChar c = [c.toLower] ∧ isWordChar c.toLower ∧
      isNameStart c.toLower = isNameStart c :=
  forall_of_isNamePart (P := fun c => isWordChar c → Text.lowerChar c = [c.toLower] ∧
    isWordChar c.toLower ∧ isNameStart c.toLower = isNameStart c) (by decide +kernel)
    (isNamePart_of_isWordChar word) word

/-- So its lower case is an image of it. -/
theorem isImage_lowerChar (word : isWordChar c) : IsImage c (Text.lowerChar c) :=
  ⟨c.toLower, lowerChar_of_isWordChar word⟩

/-- A letter or digit that is not small is its own image in upper case, and a capital is not
small. -/
theorem toUpper_of_isWordChar (word : isWordChar c) :
    (Text.isLower c = false → c.toUpper = c) ∧ (Text.isUpper c → Text.isLower c = false) :=
  forall_of_isNamePart (P := fun c => isWordChar c →
    (Text.isLower c = false → c.toUpper = c) ∧ (Text.isUpper c → Text.isLower c = false))
    (by decide +kernel) (isNamePart_of_isWordChar word) word

/-- The only separator in names is the underscore. -/
theorem isSeparator_of_isNamePart (named : isNamePart c) :
    CaseStyle.isSeparator c = (c == '_') :=
  forall_of_isNamePart (P := fun c => isNamePart c → CaseStyle.isSeparator c = (c == '_'))
    (by decide +kernel) named named

/-- A letter or digit separates nothing. -/
theorem isSeparator_of_isWordChar (word : isWordChar c) : ¬ CaseStyle.isSeparator c = true := by
  rw [isSeparator_of_isNamePart (isNamePart_of_isWordChar word), beq_iff_eq]
  exact bne_iff_ne.mp (Bool.and_eq_true_iff.mp word).2

/-- A text in capitals has no small letter. -/
theorem forall_not_isLower (capitals : Text.isAllUpper text) :
    ∀ c ∈ text, Text.isLower c = false := by
  intro c inside
  have none := (Bool.and_eq_true_iff.mp capitals).2
  rw [Bool.not_eq_true', List.any_eq_false] at none
  have both := none c inside
  rw [Bool.or_eq_true, not_or, Bool.not_eq_true] at both
  exact both.1

/-- A name has no punctuation that it would lose. -/
theorem isDropped_of_isNamePart (named : isNamePart c) : CaseStyle.isDropped c = false :=
  forall_of_isNamePart (P := fun c => isNamePart c → CaseStyle.isDropped c = false)
    (by decide +kernel) named named

namespace CaseStyle

/-! ### Regular texts -/

/-- Texts of words with one space between them. -/
inductive IsRegular : List Char → Prop
  | nil : IsRegular []
  | word {c : Char} {text : List Char} (isWord : isWordChar c) (regular : IsRegular text) :
      IsRegular (c :: text)
  | space {text : List Char} (single : text.head? ≠ some ' ') (regular : IsRegular text) :
      IsRegular (' ' :: text)

/-- A character of a regular text is a letter or digit if it is no space. -/
theorem IsRegular.isWordChar_of_mem (regular : IsRegular text) (inside : c ∈ text)
    (other : ¬ (c == ' ') = true) : SelectionTypes.isWordChar c := by
  induction regular with
  | nil => cases inside
  | word isWord _ ih => exact (List.mem_cons.mp inside).elim (fun own => own ▸ isWord) ih
  | space _ _ ih =>
    exact (List.mem_cons.mp inside).elim (fun own => absurd (beq_iff_eq.mpr own) other) ih

/-- A regular text begins with a letter or digit if it does not begin with a space. -/
theorem IsRegular.isWordChar (regular : IsRegular (c :: text)) (other : ¬ (c == ' ') = true) :
    isWordChar c :=
  regular.isWordChar_of_mem List.mem_cons_self other

/-- A regular text stays regular without its first character. -/
theorem IsRegular.tail (regular : IsRegular (c :: text)) : IsRegular text := by
  cases regular with
  | word _ regular => exact regular
  | space _ regular => exact regular

/-- A word follows a space. -/
theorem IsRegular.isWordChar_next {next : Char} (regular : IsRegular (' ' :: next :: text)) :
    SelectionTypes.isWordChar next := by
  cases regular with
  | word isWord => exact absurd isWord (by decide)
  | space single regular =>
    refine regular.isWordChar fun spaced => single ?_
    rw [List.head?_cons, beq_iff_eq.mp spaced]

/-- A text of words stays regular in lower case. -/
theorem IsRegular.lower (regular : IsRegular text) : IsRegular (text.map Char.toLower) := by
  induction regular with
  | nil => exact .nil
  | word isWord _ ih => exact .word (lowerChar_of_isWordChar isWord).2.1 ih
  | @space text single regular ih =>
    -- A space is still not followed by another one, as no letter becomes a space.
    refine .space (fun spaced => ?_) ih
    cases regular with
    | nil => cases spaced
    | @word c text isWord =>
      have blank : c.toLower = ' ' := Option.some.inj spaced
      exact absurd (blank ▸ (lowerChar_of_isWordChar isWord).2.1) (by decide)
    | space => exact single rfl

/-- Words are put into lower case one character at a time. -/
theorem IsRegular.lower_eq_map (regular : IsRegular text) :
    Text.lower text = text.map Char.toLower := by
  unfold Text.lower
  -- What stands in front only matters to the one letter whose lower case depends on its place, and
  -- it is not ASCII.
  generalize [] = before
  induction regular generalizing before with
  | nil => rfl
  | @word c text isWord _ ih =>
    have noSigma : (c == 'Σ') = false :=
      beq_eq_false_iff_ne.mpr fun sigma => absurd (sigma ▸ isWord) (by decide)
    simp only [Text.lowerFrom, noSigma, Bool.false_and, Bool.false_eq_true, if_false, ih,
      (lowerChar_of_isWordChar isWord).1, List.map_cons, List.singleton_append]
  | space _ _ ih =>
    simp only [Text.lowerFrom, ih]
    rfl

/-- What may stand in a name and separates nothing is a letter or digit. -/
theorem isWordChar_of_isNamePart (named : isNamePart c) (other : ¬ isSeparator c = true) :
    isWordChar c := by
  rw [isSeparator_of_isNamePart named, beq_iff_eq] at other
  exact Bool.and_eq_true_iff.mpr ⟨named, bne_iff_ne.mpr other⟩

/-- Squeezing a name makes it regular, since only underscores become spaces and no two spaces stay
beside each other. -/
theorem isRegular_squeeze (named : ∀ c ∈ text, isNamePart c) : IsRegular (squeeze text) := by
  -- Along the definition: two separators in a row, one in front of a word, or a character of a
  -- word.
  fun_induction squeeze text with
  | case1 => exact .nil
  | case2 c rest separates words squeezed ih =>
    rw [squeezed] at ih
    exact ih (List.forall_mem_cons.mp named).2
  | case3 c rest separates other ih =>
    refine .space (fun spaced => ?_) (ih (List.forall_mem_cons.mp named).2)
    obtain ⟨words, squeezed⟩ := List.head?_eq_some_iff.mp spaced
    exact other words squeezed
  | case4 c rest other ih =>
    rw [List.forall_mem_cons] at named
    exact .word (isWordChar_of_isNamePart named.1 other) (ih named.2)

/-- Without separators at its ends, a text begins with the first character that is none. -/
theorem head?_trim (text : List Char) : (trim text).head? = text.find? (!isSeparator ·) := by
  rw [List.find?_not_eq_head?_dropWhile]
  change ((text.dropWhile isSeparator).rdropWhile isSeparator).head? = _
  rcases isRest : (text.dropWhile isSeparator).rdropWhile isSeparator with _ | ⟨first, rest⟩
  · -- A text that is left would begin with a character that is no separator.
    rcases left : text.dropWhile isSeparator with _ | ⟨other, behind⟩
    · rfl
    · have isOther := List.find?_not_eq_head?_dropWhile isSeparator text
      rw [left] at isOther
      have separates := List.rdropWhile_eq_nil_iff.mp isRest other (left ▸ List.mem_cons_self)
      simpa [separates] using List.find?_some isOther
  · obtain ⟨behind, split⟩ := List.rdropWhile_prefix isSeparator (text.dropWhile isSeparator)
    rw [← split, isRest]
    rfl

/-- What is left between the separators at the ends still may stand in a name. -/
theorem isNamePart_of_mem_trim (named : ∀ c ∈ text, isNamePart c) :
    ∀ c ∈ trim text, isNamePart c := by
  intro c listed
  exact named c (List.dropWhile_subset _ ((List.rdropWhile_prefix isSeparator _).subset listed))

/-- A name loses nothing with its punctuation. -/
theorem regular_of_named (named : ∀ c ∈ text, isNamePart c) :
    regular text = squeeze (trim text) := by
  unfold regular
  rw [List.filter_eq_self.mpr fun c listed => ?_]
  rw [isDropped_of_isNamePart (isNamePart_of_mem_trim named c listed), Bool.not_false]

/-- A name is made regular. -/
theorem isRegular_regular (named : ∀ c ∈ text, isNamePart c) : IsRegular (regular text) := by
  rw [regular_of_named named]
  exact isRegular_squeeze (isNamePart_of_mem_trim named)

/-- Made regular, a name begins with its first character that is no underscore. -/
theorem head?_regular (named : ∀ c ∈ text, isNamePart c) :
    (regular text).head? = text.find? (· != '_') := by
  have same : text.find? (· != '_') = text.find? (!isSeparator ·) :=
    List.find?_congr fun c listed => by rw [isSeparator_of_isNamePart (named c listed)]; rfl
  rw [regular_of_named named, same, ← head?_trim]
  cases trimmed : trim text with
  | nil => rfl
  | cons first rest =>
    have isFirst := head?_trim text
    rw [trimmed] at isFirst
    rw [squeeze, if_neg (by simpa using List.find?_some isFirst.symm)]
    rfl

/-- Made regular, a name begins with a letter or digit. -/
theorem isWordChar_head?_regular (named : ∀ c ∈ text, isNamePart c) :
    ∀ c ∈ (regular text).head?, isWordChar c := by
  intro c isFirst
  rw [head?_regular named] at isFirst
  have other := List.find?_some isFirst
  exact Bool.and_eq_true_iff.mpr ⟨named c (List.mem_of_find?_eq_some isFirst), other⟩

/-- In lower case, a text of words begins with a letter or digit as before. -/
theorem IsRegular.isWordChar_head?_lower (regular : IsRegular text)
    (first : ∀ c ∈ text.head?, SelectionTypes.isWordChar c) :
    ∀ c ∈ (Text.lower text).head?, SelectionTypes.isWordChar c := by
  intro c isFirst
  rw [regular.lower_eq_map, List.head?_map] at isFirst
  obtain ⟨d, own, rfl⟩ := Option.map_eq_some_iff.mp isFirst
  exact (lowerChar_of_isWordChar (first d own)).2.1

namespace Rules

variable {rules : Rules} {before : Option Char}

/-! ### What a style writes -/

/-- Inside a word a style writes an image. -/
theorem isImage_body (rules : Rules) (word : isWordChar c) : IsImage c (rules.body c) :=
  .ite rules.loud (isImage_upperChar word) (isImage_lowerChar word)

/-- Only a capital opens a word. -/
theorem isUpper_of_opens (opens : rules.opens before c) : Text.isUpper c := by
  unfold Rules.opens at opens
  split at opens
  · cases opens
  · exact (Bool.and_eq_true_iff.mp opens).1

/-- How a character of a word is written, and the rest after it. -/
theorem scan_cons (text : List Char) (other : ¬ (c == ' ') = true) :
    rules.scan before (c :: text) =
      (if rules.opens before c then rules.join ++ (if rules.humps then [c] else Text.lowerChar c)
        else rules.body c) ++ rules.scan (some c) text := by
  cases text with
  | nil => rw [scan, scan, if_neg other, List.append_nil]
  | cons next rest =>
    rw [scan, if_neg other]
    split <;> rfl

/-- A property of the text between words and of all letters and digits that rules can write: of
those in upper case if they write some, and of those in lower case if they write some. -/
structure Allows (rules : Rules) (P : Char → Prop) : Prop where
  join : ∀ d ∈ rules.join, P d
  upper : rules.capital ∨ rules.humps ∨ rules.loud → ∀ c, isWordChar c → P c.toUpper
  lower : ¬ (rules.humps ∧ rules.loud) → ∀ c, isWordChar c → P c.toLower

/-- Letters and digits are allowed as characters of names if the text between words is. -/
theorem allows_isNamePart (joins : ∀ d ∈ rules.join, isNamePart d) :
    rules.Allows fun d => isNamePart d where
  join := joins
  upper _ _ word := isNamePart_of_isWordChar (upperChar_of_isWordChar word).2.1
  lower _ _ word := isNamePart_of_isWordChar (lowerChar_of_isWordChar word).2.1

section Allows

variable {P : Char → Prop} (allows : rules.Allows P)

include allows

/-- The upper case of a letter or digit is allowed where rules write capitals. -/
theorem Allows.upperChar (writes : rules.capital ∨ rules.humps ∨ rules.loud) (word : isWordChar c) :
    ∀ d ∈ Text.upperChar c, P d := by
  rw [(upperChar_of_isWordChar word).1]
  exact List.forall_mem_singleton.mpr (allows.upper writes c word)

/-- The lower case of a letter or digit is allowed where rules write small letters. -/
theorem Allows.lowerChar (writes : ¬ (rules.humps ∧ rules.loud)) (word : isWordChar c) :
    ∀ d ∈ Text.lowerChar c, P d := by
  rw [(lowerChar_of_isWordChar word).1]
  exact List.forall_mem_singleton.mpr (allows.lower writes c word)

/-- The first letter of a later word is allowed. -/
theorem Allows.head (word : isWordChar c) : ∀ d ∈ rules.head c, P d := by
  unfold Rules.head
  split
  · next humps => exact allows.upperChar (.inr (.inl humps)) word
  · next flat => exact allows.lowerChar (fun both => flat both.1) word

/-- A letter inside a word is allowed. -/
theorem Allows.body (word : isWordChar c) : ∀ d ∈ rules.body c, P d := by
  unfold Rules.body
  split
  · next loud => exact allows.upperChar (.inr (.inr loud)) word
  · next quiet => exact allows.lowerChar (fun both => quiet both.2) word

/-- A letter or digit that is not small is allowed if capitals are written. -/
theorem Allows.self (writes : rules.capital ∨ rules.humps ∨ rules.loud) (word : isWordChar c)
    (noLower : Text.isLower c = false) : P c :=
  (toUpper_of_isWordChar word).1 noLower ▸ allows.upper writes c word

/-- A capital that opens a word is allowed, whether it is kept or put into lower case. -/
theorem Allows.opened (word : isWordChar c) (opens : rules.opens before c) :
    ∀ d ∈ if rules.humps then [c] else Text.lowerChar c, P d := by
  split
  · next humps =>
    exact List.forall_mem_singleton.mpr
      (allows.self (.inr (.inl humps)) word
        ((toUpper_of_isWordChar word).2 (isUpper_of_opens opens)))
  · next flat => exact allows.lowerChar (fun both => flat both.1) word

/-- What is written for a regular text is allowed. -/
theorem forall_scan (regular : IsRegular text) : ∀ d ∈ rules.scan before text, P d := by
  -- Along the reading: each case takes one character, or a space and the one behind it.
  fun_induction scan rules before text with
  | case1 => exact List.forall_mem_nil _
  | case2 => exact allows.join
  | case3 before c other opens =>
    exact List.forall_mem_append.mpr
      ⟨allows.join, allows.opened (regular.isWordChar other) opens⟩
  | case4 before c other opens => exact allows.body (regular.isWordChar other)
  | case5 before next rest c isSpace ih =>
    -- Behind a space comes a word, so the character behind it has an image.
    rw [beq_iff_eq] at isSpace
    subst isSpace
    rw [List.forall_mem_append, List.forall_mem_append]
    exact ⟨⟨allows.join, allows.head regular.isWordChar_next⟩, ih regular.tail.tail⟩
  | case6 before c next rest other opens ih =>
    rw [List.forall_mem_append, List.forall_mem_append]
    exact ⟨⟨allows.join, allows.opened (regular.isWordChar other) opens⟩, ih regular.tail⟩
  | case7 before c next rest other opens ih =>
    exact List.forall_mem_append.mpr ⟨allows.body (regular.isWordChar other), ih regular.tail⟩

/-- What is written for a regular text that begins with a word is allowed. -/
theorem forall_write (regular : IsRegular text) (first : ∀ c ∈ text.head?, isWordChar c) :
    ∀ d ∈ rules.write text, P d := by
  unfold write
  split
  · next c rest capital =>
    exact List.forall_mem_append.mpr
      ⟨allows.upperChar (.inl capital) (first c rfl), forall_scan allows regular.tail⟩
  · exact forall_scan allows regular

/-- A text in capitals that keeps its letters and digits is allowed. -/
theorem forall_keep (regular : IsRegular text) (loud : rules.loud)
    (capitals : ∀ c ∈ text, Text.isLower c = false) :
    ∀ d ∈ text.flatMap fun c => if c == ' ' then rules.join else [c], P d := by
  rw [List.forall_mem_flatMap]
  induction regular with
  | nil => exact List.forall_mem_nil _
  | @word c text isWord _ ih =>
    rw [List.forall_mem_cons] at capitals
    refine List.forall_mem_cons.mpr ⟨?_, ih capitals.2⟩
    split
    · exact allows.join
    · -- Nothing is put into upper case here, as nothing is small.
      exact List.forall_mem_singleton.mpr (allows.self (.inr (.inr loud)) isWord capitals.1)
  | space _ _ ih =>
    exact List.forall_mem_cons.mpr ⟨allows.join, ih (List.forall_mem_cons.mp capitals).2⟩

/-- What is written for a name is allowed. -/
theorem forall_apply (named : ∀ d ∈ text, isNamePart d) : ∀ d ∈ rules.apply text, P d := by
  have regular := isRegular_regular named
  have first := isWordChar_head?_regular named
  unfold apply
  dsimp only
  -- A text in capitals is kept or put into lower case, any other is written as it is.
  split
  · next capitals =>
    split
    · next loud => exact forall_keep allows regular loud (forall_not_isLower capitals)
    · have firstLower := regular.isWordChar_head?_lower first
      rw [regular.lower_eq_map] at firstLower ⊢
      exact forall_write allows regular.lower firstLower
  · exact forall_write allows regular first

end Allows

/-- A text made as names are, whose first character stands for the given one. -/
def BeginsAs (c : Char) (written : List Char) : Prop :=
  ∃ image rest, written = image ++ rest ∧ IsImage c image ∧ ∀ d ∈ rest, isNamePart d

/-- A regular text is written with an image of its first letter or digit in front. -/
theorem beginsAs_write (joins : ∀ d ∈ rules.join, isNamePart d) (regular : IsRegular (c :: text))
    (word : isWordChar c) : BeginsAs c (rules.write (c :: text)) := by
  unfold write
  split
  · next first rest capital same =>
    obtain ⟨rfl, rfl⟩ := List.cons.inj same
    exact ⟨_, _, rfl, isImage_upperChar word, forall_scan (allows_isNamePart joins) regular.tail⟩
  · rw [scan_cons text (not_blank_of_isWordChar word)]
    exact ⟨_, _, rfl, rules.isImage_body word, forall_scan (allows_isNamePart joins) regular.tail⟩

/-- What a style writes for a name begins with an image of the first character of the name that is
no underscore. -/
theorem beginsAs_apply (joins : ∀ d ∈ rules.join, isNamePart d) (named : ∀ d ∈ text, isNamePart d)
    (isFirst : text.find? (· != '_') = some c) : BeginsAs c (rules.apply text) := by
  have word : isWordChar c := by
    have other := List.find?_some isFirst
    exact Bool.and_eq_true_iff.mpr ⟨named c (List.mem_of_find?_eq_some isFirst), other⟩
  have regular := isRegular_regular named
  rw [← head?_regular named, List.head?_eq_some_iff] at isFirst
  obtain ⟨rest, split⟩ := isFirst
  unfold apply
  rw [split] at regular ⊢
  dsimp only
  split
  · next capitals =>
    -- The name is in capitals: a loud style keeps them, another one reads it in lower case.
    split
    · next loud =>
      have rest := (List.forall_mem_cons.mp (forall_not_isLower capitals)).2
      rw [List.flatMap_cons, if_neg (not_blank_of_isWordChar word)]
      exact ⟨[c], _, rfl, isImage_self word,
        forall_keep (allows_isNamePart joins) regular.tail loud rest⟩
    · have small := lowerChar_of_isWordChar word
      rw [regular.lower_eq_map, List.map_cons]
      -- An image of the small letter is one of the letter itself.
      obtain ⟨image, written, same, ⟨d, isD, isWord, start⟩, behind⟩ :=
        beginsAs_write joins regular.lower small.2.1
      exact ⟨image, written, same, ⟨d, isD, isWord, start.trans small.2.2⟩, behind⟩
  · exact beginsAs_write joins regular word

/-- A style writes nothing for a name of underscores. -/
theorem apply_of_underscores (named : ∀ d ∈ text, isNamePart d)
    (none : text.find? (· != '_') = none) : rules.apply text = [] := by
  rw [← head?_regular named, List.head?_eq_none_iff] at none
  unfold apply
  rw [none]
  unfold write
  cases rules.capital <;> rfl

end Rules

/-- What a style writes for a name is allowed by what its rules allow. -/
theorem forall_convert_of {P : Char → Prop} {style : CaseStyle} {name : String}
    (allows : ∀ rules ∈ style.rules?, rules.Allows P)
    (keeps : style.rules? = none → ∀ c ∈ name.toList, P c)
    (named : ∀ c ∈ name.toList, isNamePart c) : ∀ c ∈ (style.convert name).toList, P c := by
  unfold convert
  cases ruled : style.rules? with
  | none => exact keeps ruled
  | some rules =>
    rw [String.toList_ofList]
    exact Rules.forall_apply (allows rules ruled) named

/-- Nothing is written for nothing. -/
theorem convert_empty (style : CaseStyle) : style.convert "" = "" := by
  cases style <;> rfl

end CaseStyle

end SelectionTypes
