import SelectionTypes.Proofs.Text.Parts
import SelectionTypes.Text.Comment
import SelectionTypes.TypeScript.Declaration

/-!
# `SelectionTypes.Proofs.Text.Comment`: descriptions stay inside their comments

A description is written between `/**` and `*/`. It must not end the comment early, and it must not
go on to a second line.

The signs that end a comment are escaped in one pass. Where a backslash is put, the signs around it
were next to each other before, so no pass can bring two of them together
(`not_infix_escapeCommentEnd`), and a second pass finds nothing (`escapeCommentEnd_eq_self_iff`). A
blank is none of the two signs, so texts with a blank between them are escaped one by one
(`escapeCommentEnd_append`).

Every character that ends a line is blank (`isBlank_of_isLineBoundary`), and the words of a text are
written with spaces between them. So the comment has one line, and its words are those of the
description, each of them escaped. `comment_closed` puts this together.
-/

set_option autoImplicit false

namespace SelectionTypes

namespace Text

variable {c : Char} {text front behind word : List Char} {words : List (List Char)}

/-! ### The signs that end a comment -/

/-- An escaped text begins as the text does, since the backslash goes between two characters. -/
theorem head?_escapeCommentEnd (text : List Char) :
    (escapeCommentEnd text).head? = text.head? := by
  fun_cases escapeCommentEnd text <;> rfl

/-- After escaping, no comment ends in a text. -/
theorem not_infix_escapeCommentEnd (text : List Char) :
    ¬ ['*', '/'] <:+: escapeCommentEnd text := by
  fun_induction escapeCommentEnd text with
  | case1 rest ih => simpa [List.infix_cons_iff] using ih
  | case2 c rest other ih =>
    rw [List.infix_cons_iff, not_or]
    refine ⟨fun begins => ?_, ih⟩
    -- The sign behind this one is the one that was behind it before.
    obtain ⟨rfl, behind, written⟩ := List.cons_prefix_cons.mp begins
    have next : rest.head? = some '/' := by
      rw [← head?_escapeCommentEnd, ← written]
      rfl
    obtain ⟨behind, split⟩ := List.head?_eq_some_iff.mp next
    exact other behind rfl split
  | case3 => simp

/-- Escaping changes nothing exactly if no comment ends in a text. -/
theorem escapeCommentEnd_eq_self_iff : escapeCommentEnd text = text ↔ ¬ ['*', '/'] <:+: text := by
  refine ⟨fun same => same ▸ not_infix_escapeCommentEnd text, fun free => ?_⟩
  fun_induction escapeCommentEnd text with
  | case1 rest => exact absurd (List.prefix_append ['*', '/'] rest).isInfix free
  | case2 c rest other ih =>
    rw [ih fun ends => free (List.infix_cons ends)]
  | case3 => rfl

/-- Texts with another character between them are escaped one by one. -/
theorem escapeCommentEnd_append (noStar : c ≠ '*') (noSlash : c ≠ '/') (front behind : List Char) :
    escapeCommentEnd (front ++ c :: behind) =
      escapeCommentEnd front ++ c :: escapeCommentEnd behind := by
  fun_induction escapeCommentEnd front with
  | case1 rest ih => simp [escapeCommentEnd, ih]
  | case2 first rest other ih =>
    rw [List.cons_append, List.cons_append, ← ih]
    refine escapeCommentEnd.eq_2 _ _ fun next isStar split => ?_
    rcases rest with _ | ⟨second, rest⟩
    · exact noSlash (List.cons.inj split).1
    · exact other rest isStar (by rw [(List.cons.inj split).1])
  | case3 => exact escapeCommentEnd.eq_2 _ _ fun next isStar _ => absurd isStar noStar

/-- Escaping adds nothing but backslashes. -/
theorem mem_of_mem_escapeCommentEnd (inside : c ∈ escapeCommentEnd text) : c ∈ text ∨ c = '\\' := by
  fun_induction escapeCommentEnd text with
  | case1 rest ih => grind
  | case2 first rest other ih => grind
  | case3 => cases inside

/-! ### Words -/

/-- A text without blanks that is not empty. -/
def IsSolid (word : List Char) : Prop :=
  word ≠ [] ∧ ∀ c ∈ word, isBlank c = false

/-- The words that are read are solid, in whatever solid word the reading begins. -/
theorem isSolid_of_mem_wordsFrom {current : List Char} (solid : ∀ c ∈ current, isBlank c = false)
    (listed : word ∈ wordsFrom current text) : IsSolid word := by
  -- A word that is closed has the characters that were read, and it is not put there if there are
  -- none.
  have own : ∀ {words : List (List Char)} {current : List Char},
      (∀ c ∈ current, isBlank c = false) → word ∈ consWord current words →
        IsSolid word ∨ word ∈ words := by
    intro words current solid listed
    unfold consWord at listed
    split at listed
    · exact .inr listed
    · next filled =>
      rcases List.mem_cons.mp listed with rfl | listed
      · exact .inl ⟨by simpa using filled, fun c inside => solid c (List.mem_reverse.mp inside)⟩
      · exact .inr listed
  fun_induction wordsFrom current text with
  | case1 => exact (own solid listed).resolve_right List.not_mem_nil
  | case2 current c rest blank ih =>
    exact (own solid listed).elim id (ih (List.forall_mem_nil _))
  | case3 current c rest filled ih =>
    exact ih (List.forall_mem_cons.mpr ⟨by simpa using filled, solid⟩) listed

/-- The words of a text are not empty and have no blanks. -/
theorem isSolid_of_mem_words (listed : word ∈ Text.words text) : IsSolid word :=
  isSolid_of_mem_wordsFrom (List.forall_mem_nil _) listed

/-- The characters of a word go to the word that is being read. -/
theorem wordsFrom_append (solid : ∀ c ∈ word, isBlank c = false) (current text : List Char) :
    wordsFrom current (word ++ text) = wordsFrom (word.reverse ++ current) text := by
  induction word generalizing current with
  | nil => rfl
  | cons c word ih =>
    rw [List.forall_mem_cons] at solid
    rw [List.cons_append, wordsFrom, if_neg (by simp [solid.1]), ih solid.2, List.reverse_cons,
      List.append_assoc, List.singleton_append]

/-- The words of a text that is written from words with spaces between them. -/
theorem words_intercalate (solid : ∀ word ∈ words, IsSolid word) :
    Text.words ([' '].intercalate words) = words := by
  induction words with
  | nil => rfl
  | cons word words ih =>
    rw [List.forall_mem_cons] at solid
    have first : consWord word.reverse words = word :: words := by
      rw [consWord, if_neg (by simpa using solid.1.1), List.reverse_reverse]
    -- Behind the first word the text ends, or a space closes it and the reading begins anew.
    unfold Text.words at ih ⊢
    rcases words with _ | ⟨next, words⟩
    · have whole := wordsFrom_append solid.1.2 [] []
      rw [List.append_nil, List.append_nil] at whole
      rw [List.intercalate_singleton, whole]
      exact first
    · rw [List.intercalate_cons_cons, List.append_assoc, List.singleton_append,
        wordsFrom_append solid.1.2, List.append_nil, wordsFrom, if_pos (by decide), ih solid.2]
      exact first

/-- A solid word stays one when it is escaped. -/
theorem IsSolid.escapeCommentEnd (solid : IsSolid word) : IsSolid (escapeCommentEnd word) := by
  refine ⟨fun none => solid.1 ?_, fun c inside => ?_⟩
  · rw [← List.head?_eq_none_iff, ← head?_escapeCommentEnd, none]
    rfl
  · rcases mem_of_mem_escapeCommentEnd inside with own | rfl
    · exact solid.2 c own
    · decide

/-- The words of a text are escaped one by one. -/
theorem escapeCommentEnd_intercalate (words : List (List Char)) :
    escapeCommentEnd ([' '].intercalate words) =
      [' '].intercalate (words.map escapeCommentEnd) := by
  induction words with
  | nil => rfl
  | cons word words ih =>
    rcases words with _ | ⟨next, words⟩
    · simp
    · rw [List.intercalate_cons_cons, List.append_assoc, List.singleton_append,
        escapeCommentEnd_append (by decide) (by decide), ih]
      simp only [List.map_cons]
      rw [List.intercalate_cons_cons, List.append_assoc, List.singleton_append]

/-! ### Lines -/

/-- The characters that end a line are blank, and the space is not one of them. -/
theorem isBlank_of_isLineBoundary (ends : isLineBoundary c) : isBlank c ∧ c ≠ ' ' := by
  unfold isLineBoundary at ends
  simp only [Bool.or_eq_true, beq_iff_eq] at ends
  rcases ends with ((((((((rfl | rfl) | rfl) | rfl) | rfl) | rfl) | rfl) | rfl) | rfl) | rfl <;>
    decide

/-- A text without the characters that end a line is one line. -/
theorem linesFrom_of_no_boundary (single : ∀ c ∈ text, isLineBoundary c = false)
    (current : List Char) (filled : current ≠ [] ∨ text ≠ []) :
    linesFrom current text = [current.reverse ++ text] := by
  fun_induction linesFrom current text with
  | case1 current none => simp_all
  | case2 current filled => simp
  | case3 current rest ih => exact absurd (single '\r' List.mem_cons_self) (by decide)
  | case4 current c rest other ends ih =>
    rw [single c List.mem_cons_self] at ends
    cases ends
  | case5 current c rest other inner ih =>
    rw [ih (List.forall_mem_cons.mp single).2 (.inl (List.cons_ne_nil _ _)), List.reverse_cons,
      List.append_assoc, List.singleton_append]

/-! ### Comments -/

/-- A text that a comment can hold: it does not end the comment, and it ends no line. -/
structure IsCommentText (text : String) : Prop where
  closed : ¬ "*/".toList <:+: text.toList
  single : ∀ c ∈ text.toList, isLineBoundary c = false

/-- A line with a comment that ends where the line ends, and not before. -/
structure IsCommentLine (line : String) : Prop where
  single : Text.lines line = [line]
  ends : "*/".toList <:+ line.toList
  only : ∀ front behind, line.toList = front ++ "*/".toList ++ behind → behind = []

/-- No comment ends in a text without a star in front of one where none does. -/
theorem not_infix_append (noStar : '*' ∉ front) (closed : ¬ ['*', '/'] <:+: behind) :
    ¬ ['*', '/'] <:+: front ++ behind := by
  induction front with
  | nil => exact closed
  | cons c front ih =>
    rw [List.mem_cons, not_or] at noStar
    rw [List.cons_append, List.infix_cons_iff, not_or]
    exact ⟨fun begins => noStar.1 (List.cons_prefix_cons.mp begins).1, ih noStar.2⟩

/-- No comment ends in two texts with a blank between them if none does in either. -/
theorem not_infix_append_blank (first : ¬ ['*', '/'] <:+: front)
    (second : ¬ ['*', '/'] <:+: behind) : ¬ ['*', '/'] <:+: front ++ ' ' :: behind := by
  rw [← escapeCommentEnd_eq_self_iff] at first second ⊢
  rw [escapeCommentEnd_append (by decide) (by decide), first, second]

/-- A text between the signs of a comment gives a line that ends with the comment. -/
theorem IsCommentText.isCommentLine {text : String} (isText : IsCommentText text) {indent : String}
    (spaces : ∀ c ∈ indent.toList, c = ' ') :
    IsCommentLine (indent ++ "/** " ++ text ++ " */") := by
  have chars : (indent ++ "/** " ++ text ++ " */").toList =
      indent.toList ++ ("/**".toList ++ ' ' :: (text.toList ++ ' ' :: ['*'])) ++ ['/'] := by
    simp [String.toList_append]
  refine ⟨?_, ⟨indent.toList ++ "/** ".toList ++ text.toList ++ [' '], ?_⟩, ?_⟩
  · have single : ∀ c ∈ (indent ++ "/** " ++ text ++ " */").toList, isLineBoundary c = false := by
      have fixed : ∀ {text : List Char}, text.any isLineBoundary = false →
          ∀ c ∈ text, isLineBoundary c = false :=
        fun none c inside => Bool.eq_false_iff.mpr (List.any_eq_false.mp none c inside)
      simp only [String.toList_append, List.forall_mem_append]
      refine ⟨⟨⟨fun c inside => ?_, fixed (by decide)⟩, isText.single⟩, fixed (by decide)⟩
      rw [spaces c inside]
      decide
    unfold Text.lines
    rw [linesFrom_of_no_boundary single [] (.inr (by simp [chars])), List.reverse_nil,
      List.nil_append, List.map_singleton, String.ofList_toList]
  · simp [String.toList_append]
  · intro front behind split
    rcases behind.eq_nil_or_concat with rfl | ⟨rest, last, rfl⟩
    · rfl
    -- Signs in front of the last character would be in what is written before it.
    rw [chars, List.concat_eq_append, ← List.append_assoc (front ++ _) rest] at split
    have own := (List.append_inj' split.symm rfl).1
    have noStar : '*' ∉ indent.toList := fun inside => absurd (spaces _ inside) (by decide)
    have inner : ¬ ['*', '/'] <:+: text.toList ++ ' ' :: ['*'] :=
      not_infix_append_blank isText.closed (by decide)
    have opened : ¬ ['*', '/'] <:+: "/**".toList := by decide
    have closed := not_infix_append noStar (not_infix_append_blank opened inner)
    exact absurd ⟨front, rest, own⟩ closed

/-- What a description is written as: its words, each escaped, with spaces between them. -/
theorem comment?_eq_some_iff {description : Option String} {written : String} :
    comment? description = some written ↔ ∃ text, description = some text ∧ text ≠ "" ∧
      written.toList = [' '].intercalate ((Text.words text.toList).map escapeCommentEnd) := by
  unfold comment?
  rcases description with _ | text
  · simp
  · by_cases empty : text = ""
    · simp [empty]
    · simp only [String.isEmpty_iff, empty, if_false, collapse, escapeCommentEnd_intercalate,
        Option.some.injEq, ne_eq, exists_eq_left', not_false_eq_true, true_and]
      rw [← String.toList_inj, String.toList_ofList, eq_comm]

/-- A description is not written exactly if it is absent or empty. What is written has the words of
the description, each of them escaped. It does not end the comment and it ends no line, so a line
with nothing else than the comment, behind spaces, is a single one whose only end of a comment is
its own. What is written as a comment is written as the same comment again. -/
theorem comment_closed (description : Option String) :
    (comment? description = none ↔ description = none ∨ description = some "") ∧
    ∀ written ∈ comment? description,
      (∃ text ∈ description,
        Text.words written.toList = (Text.words text.toList).map escapeCommentEnd) ∧
      IsCommentText written ∧
      (written ≠ "" → comment? (some written) = some written ∧
        ∀ indent line : String, (∀ c ∈ indent.toList, c = ' ') →
          TypeScript.commented indent (some written) line =
              [indent ++ "/** " ++ written ++ " */", line] ∧
            IsCommentLine (indent ++ "/** " ++ written ++ " */")) := by
  refine ⟨?_, fun written isWritten => ?_⟩
  · rcases description with _ | text
    · simp [comment?]
    · by_cases empty : text = "" <;> simp [comment?, empty]
  obtain ⟨text, rfl, -, chars⟩ := comment?_eq_some_iff.mp isWritten
  have solid : ∀ word ∈ (Text.words text.toList).map escapeCommentEnd, IsSolid word := by
    rw [List.forall_mem_map]
    exact fun word listed => (isSolid_of_mem_words listed).escapeCommentEnd
  have own : Text.words written.toList = (Text.words text.toList).map escapeCommentEnd := by
    rw [chars, words_intercalate solid]
  have closed : ¬ ['*', '/'] <:+: written.toList := by
    rw [chars, ← escapeCommentEnd_intercalate]
    exact not_infix_escapeCommentEnd _
  have isText : IsCommentText written := by
    refine ⟨closed, fun c inside => ?_⟩
    by_contra ends
    rw [Bool.not_eq_false] at ends
    obtain ⟨blank, noSpace⟩ := isBlank_of_isLineBoundary ends
    -- The only blanks that are written are the spaces between words.
    have spaced : ∀ c ∈ written.toList, isBlank c → c = ' ' := by
      rw [chars]
      refine forall_intercalate (by simp) fun word listed c inside blank => ?_
      rw [(solid word listed).2 c inside] at blank
      cases blank
    exact noSpace (spaced c inside blank)
  refine ⟨⟨text, rfl, own⟩, isText, fun filled => ⟨?_, fun indent line spaces => ⟨?_, ?_⟩⟩⟩
  · refine comment?_eq_some_iff.mpr ⟨written, rfl, filled, ?_⟩
    rw [← escapeCommentEnd_intercalate, own, ← chars]
    exact (escapeCommentEnd_eq_self_iff.mpr closed).symm
  · unfold TypeScript.commented
    simp [filled]
  · exact isText.isCommentLine spaces

/-- Signs that overlap do not get through, and neither does a line separator. -/
example : comment? (some "**// ends\u2028*/*/") = some "**\\// ends *\\/*\\/" := by
  decide +kernel

end Text

end SelectionTypes
