import SelectionTypes.Proofs.Naming.Identifiers

/-!
# `SelectionTypes.Proofs.Naming.Suffixes`: suffixes of converted names

A name that ends in the suffix of its kind can be told to take no second one. Whether it ends in the
suffix is asked before the name is converted, and a conversion can both take the suffix away and
bring it about.

A style that writes capitals and small letters tells words apart: at spaces, and at capitals behind
small letters (`Rules.wordsFrom`). It writes each word with a capital at its beginning and small
letters behind it, except for a first word in small letters alone (`Rules.apply_eq_intercalate`). A
suffix is one such word. So a converted name ends in it exactly if its last word does not only end
in the suffix, but is the suffix (`suffix_written_iff`). All other styles write capitals alone or
small letters alone, which no suffix is made of, and `suffix_identifier_iff` has all styles.

`suffixLaw` compares this with the ends of names that are not converted.
-/

set_option autoImplicit false

namespace SelectionTypes

open Lexeme (isNamePart)

namespace CaseStyle

variable {c : Char} {text suffix : List Char}

/-! ### Words that a style tells apart -/

/-- A word with its first letter in upper case and all others in lower case. -/
def titled : List Char → List Char
  | [] => []
  | c :: rest => c.toUpper :: rest.map Char.toLower

/-- A capital with small letters behind it. -/
def IsTitle : List Char → Prop
  | [] => False
  | c :: rest => Text.isUpper c ∧ rest ≠ [] ∧ rest.all Text.isLower

instance : DecidablePred IsTitle
  | [] => inferInstanceAs (Decidable False)
  | _ :: _ => inferInstanceAs (Decidable (_ ∧ _ ∧ _ = true))

/-- A title has a capital. -/
theorem IsTitle.exists_isUpper (isTitle : IsTitle text) : ∃ c ∈ text, Text.isUpper c := by
  rcases text with _ | ⟨c, rest⟩
  · exact isTitle.elim
  · exact ⟨c, List.mem_cons_self, isTitle.1⟩

/-- A title has a small letter, so no text in capitals ends in it. -/
theorem IsTitle.exists_isLower (isTitle : IsTitle text) : ∃ c ∈ text, Text.isLower c := by
  rcases text with _ | ⟨c, _ | ⟨d, rest⟩⟩
  · exact isTitle.elim
  · exact absurd rfl isTitle.2.1
  · exact ⟨d, by simp, List.all_eq_true.mp isTitle.2.2 d List.mem_cons_self⟩

/-- A title has no underscore, so it is within one of the parts of a name. -/
theorem IsTitle.not_mem_underscore (isTitle : IsTitle text) : '_' ∉ text := by
  rcases text with _ | ⟨c, rest⟩
  · exact List.not_mem_nil
  · rw [List.mem_cons, not_or]
    refine ⟨fun same => ?_, fun inside => ?_⟩
    · exact absurd (same ▸ isTitle.1) (by decide +kernel)
    · exact absurd (List.all_eq_true.mp isTitle.2.2 '_' inside) (by decide +kernel)

/-- A letter or digit in upper case is not small, and one in lower case is no capital. -/
theorem case_of_isWordChar (word : isWordChar c) :
    Text.isLower c.toUpper = false ∧ Text.isUpper c.toLower = false :=
  forall_of_isNamePart (P := fun c => isWordChar c →
    Text.isLower c.toUpper = false ∧ Text.isUpper c.toLower = false) (by decide +kernel)
    (isNamePart_of_isWordChar word) word

/-- A text of letters and digits that is not empty. -/
def IsWord (word : List Char) : Prop :=
  word ≠ [] ∧ ∀ c ∈ word, isWordChar c

/-- A text that ends in a word with a capital at its beginning ends in another such word only if
the two are the same. -/
theorem suffix_titled_iff (isTitle : IsTitle suffix) {word : List Char} (isWord : IsWord word)
    (front : List Char) : suffix <:+ front ++ titled word ↔ titled word = suffix := by
  obtain ⟨filled, each⟩ := isWord
  rcases word with _ | ⟨c, rest⟩
  · exact absurd rfl filled
  rcases suffix with _ | ⟨capital, small⟩
  · exact isTitle.elim
  rw [List.forall_mem_cons] at each
  refine ⟨fun ends => ?_, fun same => same ▸ List.suffix_append front _⟩
  rcases List.suffix_or_suffix_of_suffix ends (List.suffix_append front _) with inside | around
  · rcases List.suffix_cons_iff.mp inside with same | inner
    · exact same.symm
    · -- The capital is none of the small letters of the word.
      obtain ⟨d, inWord, same⟩ := List.mem_map.mp (inner.subset List.mem_cons_self)
      have noCapital := (case_of_isWordChar (each.2 d inWord)).2
      rw [same, isTitle.1] at noCapital
      cases noCapital
  · rcases List.suffix_cons_iff.mp around with same | inner
    · exact same
    · -- The first letter of the word is none of the small letters of the suffix.
      have isSmall := List.all_eq_true.mp isTitle.2.2 c.toUpper
        (inner.subset List.mem_cons_self)
      rw [(case_of_isWordChar each.1).1] at isSmall
      cases isSmall

/-- Without a separator at its end, a text that is squeezed has no space there. -/
theorem getLast?_squeeze (closed : ∀ c ∈ text.getLast?, ¬ isSeparator c = true) :
    (squeeze text).getLast? ≠ some ' ' := by
  -- A text with characters is not squeezed to nothing, so its end stays the end.
  have filled : ∀ {text : List Char}, text ≠ [] → squeeze text ≠ [] := by
    intro text filled
    fun_cases squeeze text with
    | case1 => exact absurd rfl filled
    | _ => exact List.cons_ne_nil _ _
  fun_induction squeeze text with
  | case1 => simp
  | case2 c rest separates words squeezed ih =>
    have more : rest ≠ [] := by
      rintro rfl
      cases squeezed
    rw [List.getLast?_cons_of_ne_nil more] at closed
    exact squeezed ▸ ih closed
  | case3 c rest separates other ih =>
    have more : rest ≠ [] := by
      rintro rfl
      exact closed c rfl separates
    rw [List.getLast?_cons_of_ne_nil more] at closed
    rw [List.getLast?_cons_of_ne_nil (filled more)]
    exact ih closed
  | case4 c rest other ih =>
    rcases rest with _ | ⟨next, rest⟩
    · rintro blank
      cases blank
      exact other (by decide)
    · rw [List.getLast?_cons_of_ne_nil (List.cons_ne_nil _ _)] at closed
      rw [List.getLast?_cons_of_ne_nil (filled (List.cons_ne_nil _ _))]
      exact ih closed

/-- A regular text that is made from a name has no space at its end. -/
theorem getLast?_regular (named : ∀ c ∈ text, isNamePart c) :
    (regular text).getLast? ≠ some ' ' := by
  rw [regular_of_named named]
  refine getLast?_squeeze fun c isLast => ?_
  obtain ⟨filled, isLast⟩ := List.mem_getLast?_eq_getLast isLast
  exact isLast ▸ List.rdropWhile_last_not _ _ filled

/-- A text without its first character has no space at its end either. -/
theorem getLast?_tail (closed : (c :: text).getLast? ≠ some ' ') : text.getLast? ≠ some ' ' := by
  rcases text with _ | ⟨next, rest⟩
  · exact nofun
  · rwa [List.getLast?_cons_of_ne_nil (List.cons_ne_nil _ _)] at closed

/-- Texts of words with nothing around them. -/
structure IsClosed (text : List Char) : Prop where
  regular : IsRegular text
  first : ∀ c ∈ text.head?, isWordChar c
  last : text.getLast? ≠ some ' '

/-- What a style with capitals and small letters reads: a text without small letters in lower
case. -/
def read (text : List Char) : List Char :=
  if Text.isAllUpper (regular text) then Text.lower (regular text) else regular text

/-- What a style reads of a name has nothing but words at both ends. -/
theorem isClosed_read (named : ∀ c ∈ text, isNamePart c) : IsClosed (read text) := by
  have isRegular := isRegular_regular named
  have first := isWordChar_head?_regular named
  have last := getLast?_regular named
  unfold read
  split
  · have firstLower := isRegular.isWordChar_head?_lower first
    rw [isRegular.lower_eq_map] at firstLower ⊢
    refine ⟨isRegular.lower, firstLower, fun blank => ?_⟩
    rw [List.getLast?_map, Option.map_eq_some_iff] at blank
    obtain ⟨c, isLast, blank⟩ := blank
    -- A letter or digit does not become a space.
    by_cases isSpace : (c == ' ') = true
    · exact last (by rw [isLast, beq_iff_eq.mp isSpace])
    · have word := isRegular.isWordChar_of_mem (List.mem_of_getLast? isLast) isSpace
      exact not_blank_of_isWordChar (lowerChar_of_isWordChar word).2.1 (beq_iff_eq.mpr blank)
  · exact ⟨isRegular, first, last⟩

namespace Rules

variable {rules : Rules} {current : List Char} {before : Option Char}

/-- The words of the rest of a text, read after `before`. The first of them begins with
`current`. -/
def wordsFrom (rules : Rules) (current : List Char) (before : Option Char) :
    List Char → List (List Char)
  | [] => [current]
  | c :: text =>
    if c == ' ' then
      match text with
      | [] => [current, []]
      | next :: rest => current :: rules.wordsFrom [next] (some ' ') rest
    else if rules.opens before c then current :: rules.wordsFrom [c] (some c) text
    else rules.wordsFrom (current ++ [c]) (some c) text

/-- The words of a text. The character behind a capital that is written at the beginning is read
without the one before it. -/
def words (rules : Rules) : List Char → List (List Char)
  | [] => []
  | c :: rest => rules.wordsFrom [c] (if rules.capital then none else some c) rest

/-- How words are written: the first one in small letters, unless the style begins with a
capital. -/
def written (rules : Rules) : List (List Char) → List (List Char)
  | [] => []
  | first :: behind =>
    (if rules.capital then titled first else first.map Char.toLower) :: behind.map titled

/-- The words of a regular text are not empty and have letters and digits only. -/
theorem isWord_of_mem_wordsFrom (regular : IsRegular text) (closed : text.getLast? ≠ some ' ')
    (isWord : IsWord current) : ∀ word ∈ rules.wordsFrom current before text, IsWord word := by
  have single : ∀ {c : Char}, isWordChar c → IsWord [c] := fun word =>
    ⟨List.cons_ne_nil _ _, List.forall_mem_singleton.mpr word⟩
  -- Along the scan: what follows a space begins a new word, so no word is empty.
  fun_induction wordsFrom rules current before text with
  | case1 => exact List.forall_mem_singleton.mpr isWord
  | case2 current before c isSpace => exact absurd (congrArg some (beq_iff_eq.mp isSpace)) closed
  | case3 current before c isSpace next rest ih =>
    rw [beq_iff_eq] at isSpace
    subst isSpace
    exact List.forall_mem_cons.mpr
      ⟨isWord, ih regular.tail.tail (getLast?_tail (getLast?_tail closed))
        (single regular.isWordChar_next)⟩
  | case4 current before c text other opens ih =>
    exact List.forall_mem_cons.mpr
      ⟨isWord, ih regular.tail (getLast?_tail closed) (single (regular.isWordChar other))⟩
  | case5 current before c text other opens ih =>
    refine ih regular.tail (getLast?_tail closed)
      ⟨List.append_ne_nil_of_right_ne_nil _ (by simp), ?_⟩
    exact List.forall_mem_append.mpr
      ⟨isWord.2, List.forall_mem_singleton.mpr (regular.isWordChar other)⟩

section Mixed

variable (humps : rules.humps) (quiet : rules.loud = false)

include humps quiet

/-- What a style with capitals and small letters writes for the rest of a text: what is left of the
word it begins in, and the other words. -/
theorem scan_eq_intercalate (regular : IsRegular text) (current : List Char)
    (before : Option Char) :
    ∃ more behind, rules.wordsFrom current before text = (current ++ more) :: behind ∧
      rules.scan before text =
        rules.join.intercalate (more.map Char.toLower :: behind.map titled) := by
  fun_induction wordsFrom rules current before text with
  | case1 current => exact ⟨[], [], by simp [scan]⟩
  | case2 current before c isSpace => exact ⟨[], [[]], by simp [scan, isSpace, titled]⟩
  | case3 current before c isSpace next rest ih =>
    obtain ⟨more, behind, found, written⟩ := ih regular.tail.tail
    -- A new word begins behind the space, with a capital.
    rw [beq_iff_eq] at isSpace
    subst isSpace
    refine ⟨[], ([next] ++ more) :: behind, by rw [found, List.append_nil], ?_⟩
    rw [scan, if_pos (beq_self_eq_true ' '), written, head, if_pos humps,
      (upperChar_of_isWordChar regular.isWordChar_next).1]
    simp [titled]
  | case4 current before c text other opens ih =>
    obtain ⟨more, behind, found, written⟩ := ih regular.tail
    -- A new word begins at a capital, which is written as it is.
    have isWord := regular.isWordChar other
    have ownCapital : c.toUpper = c :=
      (toUpper_of_isWordChar isWord).1 ((toUpper_of_isWordChar isWord).2 (isUpper_of_opens opens))
    refine ⟨[], ([c] ++ more) :: behind, by rw [found, List.append_nil], ?_⟩
    rw [scan_cons text other, if_pos opens, if_pos humps, written]
    simp [titled, ownCapital]
  | case5 current before c text other opens ih =>
    obtain ⟨more, behind, found, written⟩ := ih regular.tail
    refine ⟨c :: more, behind, by rw [found, List.append_assoc, List.singleton_append], ?_⟩
    rw [scan_cons text other, if_neg opens, written, body, if_neg (by simp [quiet]),
      (lowerChar_of_isWordChar (regular.isWordChar other)).1]
    simp

/-- A style with capitals and small letters writes the words of a text. -/
theorem write_eq_intercalate (regular : IsRegular text) (first : ∀ c ∈ text.head?, isWordChar c) :
    rules.write text = rules.join.intercalate (rules.written (rules.words text)) := by
  rcases text with _ | ⟨c, rest⟩
  · unfold write
    cases rules.capital <;> rfl
  have word := first c rfl
  -- The first character is written by itself, and the rest is read with it as the current word.
  obtain ⟨more, behind, found, written⟩ :=
    scan_eq_intercalate humps quiet regular.tail [c] (if rules.capital then none else some c)
  rw [words, found, Rules.written]
  unfold write
  split
  · next c' rest' capital same =>
    obtain ⟨rfl, rfl⟩ := List.cons.inj same
    rw [if_pos capital] at written
    rw [if_pos capital, written, (upperChar_of_isWordChar word).1]
    simp [titled]
  · next small =>
    have small : ¬ rules.capital = true := fun capital => small c rest capital rfl
    rw [if_neg small] at written
    rw [if_neg small, scan_cons rest (not_blank_of_isWordChar word), if_neg (by simp [opens]),
      written, body, if_neg (by simp [quiet]), (lowerChar_of_isWordChar word).1]
    simp

end Mixed

/-- What a style with capitals and small letters writes for a name. -/
theorem apply_eq_intercalate (humps : rules.humps) (quiet : rules.loud = false)
    (named : ∀ c ∈ text, isNamePart c) :
    rules.apply text = rules.join.intercalate (rules.written (rules.words (read text))) := by
  have isClosed := isClosed_read named
  rw [← write_eq_intercalate humps quiet isClosed.regular isClosed.first]
  unfold apply read
  rw [quiet]
  dsimp only
  split <;> rfl

/-- The words of such a text are words. -/
theorem isWord_of_mem_words (isClosed : IsClosed text) :
    ∀ word ∈ rules.words text, IsWord word := by
  rcases text with _ | ⟨c, rest⟩
  · exact List.forall_mem_nil _
  · have word := isClosed.first c rfl
    exact isWord_of_mem_wordsFrom isClosed.regular.tail (getLast?_tail isClosed.last)
      ⟨List.cons_ne_nil _ _, List.forall_mem_singleton.mpr word⟩

/-- Whether the last word is a suffix and is written with a capital. -/
def lastIs (rules : Rules) (suffix : List Char) (words : List (List Char)) : Bool :=
  words.getLast?.map titled == some suffix && (rules.capital || decide (1 < words.length))

/-- Words are written with a suffix at their end exactly if the last of them is the suffix. -/
theorem suffix_written_iff (isTitle : IsTitle suffix) {words : List (List Char)}
    (each : ∀ word ∈ words, IsWord word) :
    suffix <:+ rules.join.intercalate (rules.written words) ↔ rules.lastIs suffix words := by
  have filled : suffix ≠ [] := by
    rintro rfl
    exact isTitle
  rcases words.eq_nil_or_concat' with rfl | ⟨front, last, rfl⟩
  · simpa [lastIs, written] using filled
  have isWord := each last (List.mem_append_right front List.mem_cons_self)
  rcases front with _ | ⟨first, front⟩
  · -- A single word is titled only if the style begins with a capital.
    by_cases capital : rules.capital = true
    · simpa [lastIs, written, capital] using suffix_titled_iff isTitle isWord []
    · have noCapital : ¬ suffix <:+ last.map Char.toLower := fun ends => by
        obtain ⟨c, inside, isUpper⟩ := isTitle.exists_isUpper
        obtain ⟨d, inWord, rfl⟩ := List.mem_map.mp (ends.subset inside)
        rw [(case_of_isWordChar (isWord.2 d inWord)).2] at isUpper
        cases isUpper
      simpa [lastIs, written, capital] using noCapital
  · have ends := Text.suffix_intercalate rules.join (titled last)
      ((if rules.capital then titled first else first.map Char.toLower) :: front.map titled)
    obtain ⟨before, isEnd⟩ := ends
    have whole : rules.written (first :: front ++ [last]) =
        ((if rules.capital then titled first else first.map Char.toLower) :: front.map titled) ++
          [titled last] := by simp [written]
    rw [whole, ← isEnd, suffix_titled_iff isTitle isWord, lastIs, List.getLast?_concat]
    simp

/-- Other styles write no capitals or no small letters. -/
theorem allows_of_not_mixed {style : CaseStyle} (ruled : style.rules? = some rules)
    (other : ¬ (rules.humps ∧ rules.loud = false)) :
    rules.Allows (Text.isUpper · = false) ∨ rules.Allows (Text.isLower · = false) := by
  have joins : (rules.join.all fun c => !Text.isUpper c && !Text.isLower c) = true := by
    cases style <;> cases ruled <;> decide +kernel
  simp only [List.all_eq_true, Bool.and_eq_true, Bool.not_eq_true'] at joins
  have sizes : ¬ (rules.capital ∨ rules.humps ∨ rules.loud) ∨ rules.humps ∧ rules.loud := by
    cases style <;> cases ruled <;> first | decide | exact absurd (by decide) other
  rcases sizes with small | loud
  · exact .inl ⟨fun c inside => (joins c inside).1, fun writes => absurd writes small,
      fun _ c word => (case_of_isWordChar word).2⟩
  · exact .inr ⟨fun c inside => (joins c inside).2, fun _ c word => (case_of_isWordChar word).1,
      fun writes => absurd loud writes⟩

/-- What a style writes for a name ends in a suffix exactly if the style writes capitals and small
letters, and the last word is the suffix. -/
theorem suffix_apply_iff (isTitle : IsTitle suffix) {style : CaseStyle}
    (ruled : style.rules? = some rules) (named : ∀ c ∈ text, isNamePart c) :
    suffix <:+ rules.apply text ↔
      rules.humps ∧ rules.loud = false ∧ rules.lastIs suffix (rules.words (read text)) := by
  by_cases mixed : rules.humps ∧ rules.loud = false
  · rw [apply_eq_intercalate mixed.1 mixed.2 named,
      suffix_written_iff isTitle (isWord_of_mem_words (isClosed_read named))]
    exact ⟨fun same => ⟨mixed.1, mixed.2, same⟩, fun same => same.2.2⟩
  · refine iff_of_false (fun ends => ?_) fun same => mixed ⟨same.1, same.2.1⟩
    -- Any other style writes no capitals or no small letters, and a title has both.
    rcases allows_of_not_mixed ruled mixed with small | loud
    · obtain ⟨c, inside, isUpper⟩ := isTitle.exists_isUpper
      rw [forall_apply small named c (ends.subset inside)] at isUpper
      cases isUpper
    · obtain ⟨c, inside, isLower⟩ := isTitle.exists_isLower
      rw [forall_apply loud named c (ends.subset inside)] at isLower
      cases isLower

end Rules

end CaseStyle

namespace Settings

variable {settings : Settings} {name : String} {suffix : List Char}

/-- The part of a name that is converted last. -/
def lastPart (settings : Settings) (name : String) : List Char :=
  if settings.transformUnderscore then name.toList
  else (Text.partsBetween '_' name.toList).getLastD []

/-- Whether the last word of a name, as the naming convention tells words apart, is a suffix. A name
that is kept is not taken apart. -/
def lastWordIs (settings : Settings) (suffix : List Char) (name : String) : Bool :=
  match settings.namingConvention.rules? with
  | none => suffix.isSuffixOf name.toList
  | some rules =>
    rules.humps && !rules.loud &&
      rules.lastIs suffix (rules.words (CaseStyle.read (settings.lastPart name)))

/-- The last part of a name is the whole name, or what stands behind its last underscore. -/
theorem lastPart_eq (settings : Settings) (name : String) :
    settings.transformUnderscore ∧ settings.lastPart name = name.toList ∨
      ¬ settings.transformUnderscore ∧ ∃ front,
        Text.partsBetween '_' name.toList = front ++ [settings.lastPart name] := by
  unfold lastPart
  split
  · next treated => exact .inl ⟨treated, rfl⟩
  · next kept =>
    rcases (Text.partsBetween '_' name.toList).eq_nil_or_concat' with none | ⟨front, last, split⟩
    · exact absurd none (Text.partsBetween_ne_nil '_' name.toList)
    · exact .inr ⟨kept, front, by rw [split, List.getLastD_concat]⟩

/-- The last part has no characters but those of the name. -/
theorem mem_of_mem_lastPart {c : Char} (inside : c ∈ settings.lastPart name) : c ∈ name.toList := by
  rcases lastPart_eq settings name with ⟨-, whole⟩ | ⟨-, front, split⟩
  · exact whole ▸ inside
  · have isPart := split ▸ List.mem_append_right front List.mem_cons_self
    exact Text.mem_of_mem_partsBetween isPart inside

/-- A name ends in a suffix exactly if its last part does. -/
theorem suffix_lastPart_iff (apart : '_' ∉ suffix) :
    suffix <:+ settings.lastPart name ↔ suffix <:+ name.toList := by
  rcases lastPart_eq settings name with ⟨-, whole⟩ | ⟨-, front, split⟩
  · rw [whole]
  · have joined : ['_'].intercalate (name.toList.splitOn '_') = name.toList :=
      List.intercalate_splitOn '_'
    rw [← Text.partsBetween_eq_splitOn, split] at joined
    rw [← Text.suffix_intercalate_iff apart front, joined]

/-- A converted name ends in a suffix exactly if the last part does once it is converted. -/
theorem suffix_identifier_iff_convert (apart : '_' ∉ suffix) :
    suffix <:+ (settings.identifier name).toList ↔
      suffix <:+
        (settings.namingConvention.convert (String.ofList (settings.lastPart name))).toList := by
  unfold identifier
  rcases lastPart_eq settings name with ⟨treated, whole⟩ | ⟨kept, front, split⟩
  · rw [if_pos treated, whole, String.ofList_toList]
  · rw [if_neg kept, split, String.toList_intercalate, List.map_map, List.map_append,
      List.map_singleton]
    exact Text.suffix_intercalate_iff apart _ _

/-- A converted name ends in a suffix exactly if its last word is the suffix. -/
theorem suffix_identifier_iff (isTitle : CaseStyle.IsTitle suffix)
    (named : ∀ c ∈ name.toList, isNamePart c) :
    suffix <:+ (settings.identifier name).toList ↔ settings.lastWordIs suffix name := by
  have apart := isTitle.not_mem_underscore
  rw [suffix_identifier_iff_convert apart]
  unfold lastWordIs CaseStyle.convert
  cases ruled : settings.namingConvention.rules? with
  | none => rw [String.toList_ofList, suffix_lastPart_iff apart, List.isSuffixOf_iff_suffix]
  | some rules =>
    dsimp only
    rw [String.toList_ofList, String.toList_ofList, CaseStyle.Rules.suffix_apply_iff isTitle ruled
      fun c inside => named c (mem_of_mem_lastPart inside)]
    simp [and_assoc]

/-! ### Suffixes that are not repeated -/

/-- When a suffix is put behind a converted name. -/
structure SuffixLaw (settings : Settings) (suffix name generated : String) : Prop where
  /-- The suffix is put there unless the converted name ends in it, exactly if the conversion keeps
  the end of the name: if the name itself ends in the suffix, or else if the last word is not the
  suffix. -/
  once_iff :
    generated = settings.typeName name ++
        (if suffix.toList.isSuffixOf (settings.identifier name).toList then "" else suffix) ↔
      suffix.toList.isSuffixOf name.toList = settings.lastWordIs suffix.toList name
  /-- It is put behind a name that ends in it already, exactly if the last word is the suffix and
  the name itself does not end in it. -/
  twice_iff :
    (suffix.toList <:+ (settings.identifier name).toList ∧
        generated = settings.typeName name ++ suffix) ↔
      settings.lastWordIs suffix.toList name ∧ ¬ suffix.toList <:+ name.toList

/-- The suffix is told by the name before it is converted. -/
theorem suffixedName_eq (dedupes : settings.dedupeOperationSuffix)
    (suffixes : settings.omitOperationSuffix = false) (suffix name : String) :
    settings.suffixedName suffix name =
      settings.typeName name ++ (if suffix.toList.isSuffixOf name.toList then "" else suffix) := by
  simp only [suffixedName, dedupes, suffixes, Bool.true_and, Bool.false_or]

/-- A name with a suffix of its own keeps the law. Whether the suffix is left out goes by the name
itself, whether it is already written goes by the last word. -/
theorem suffixLaw_suffixedName (dedupes : settings.dedupeOperationSuffix)
    (suffixes : settings.omitOperationSuffix = false) (named : ∀ c ∈ name.toList, isNamePart c)
    {suffix : String} (isTitle : CaseStyle.IsTitle suffix.toList) :
    settings.SuffixLaw suffix name (settings.suffixedName suffix name) := by
  have filled : suffix ≠ "" := by
    rintro rfl
    exact isTitle
  -- Both questions of the law come down to two booleans, whose four cases are checked.
  have ends : suffix.toList.isSuffixOf (settings.identifier name).toList =
      settings.lastWordIs suffix.toList name := by
    rw [Bool.eq_iff_iff, List.isSuffixOf_iff_suffix, suffix_identifier_iff isTitle named]
  rw [suffixedName_eq dedupes suffixes]
  refine ⟨?_, ?_⟩
  · rw [String.append_right_inj, ends]
    cases suffix.toList.isSuffixOf name.toList <;>
      cases settings.lastWordIs suffix.toList name <;> simp [filled, filled.symm]
  · rw [String.append_right_inj, suffix_identifier_iff isTitle named, ← List.isSuffixOf_iff_suffix]
    cases suffix.toList.isSuffixOf name.toList <;> simp [filled.symm]

/-- With suffixes that are not to be repeated, the types of fragments and of operations are named
with the suffix of their kind exactly once, if the name ends in the suffix exactly if its last word
is the suffix. -/
theorem suffixLaw (dedupes : settings.dedupeOperationSuffix)
    (suffixes : settings.omitOperationSuffix = false) (named : ∀ c ∈ name.toList, isNamePart c) :
    settings.SuffixLaw "Fragment" name (settings.fragmentTypeName name) ∧
      ∀ kind : OperationKind,
        settings.SuffixLaw kind.suffix name (settings.operationTypeName kind name) := by
  refine ⟨suffixLaw_suffixedName dedupes suffixes named (by decide +kernel), fun kind =>
    suffixLaw_suffixedName dedupes suffixes named ?_⟩
  cases kind <;> decide +kernel

/-- The last word of the name is the suffix, and the name ends in it. -/
theorem suffixLaw_catFragment :
    fragmentTypeName { dedupeOperationSuffix := true } "CatFragment" =
      typeName { dedupeOperationSuffix := true } "CatFragment" ++
        (if "Fragment".toList.isSuffixOf
          (identifier { dedupeOperationSuffix := true } "CatFragment").toList
        then "" else "Fragment") :=
  (@suffixLaw { dedupeOperationSuffix := true } "CatFragment" rfl rfl
    (List.all_eq_true.mp (by decide))).1.once_iff.mpr (by decide +kernel)

/-- A conversion brings a suffix about, which is then repeated, and takes another one away, which is
then missing. -/
theorem not_suffixLaw :
    (identifier { dedupeOperationSuffix := true } "pet_fragment" = "Pet_Fragment" ∧
      fragmentTypeName { dedupeOperationSuffix := true } "pet_fragment" = "Pet_FragmentFragment") ∧
    (identifier { dedupeOperationSuffix := true } "V2Query" = "V2query" ∧
      operationTypeName { dedupeOperationSuffix := true } .query "V2Query" = "V2query") := by
  decide

end Settings

end SelectionTypes
