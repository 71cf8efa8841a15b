import Mathlib.Logic.Relation
import SelectionTypes.Proofs.Selection.Lookup

/-!
# `SelectionTypes.Proofs.Selection.Spreads`: which spreads can be inlined

Inlining enters a fragment where it is spread, and fragments may spread one another in any way.
`FragmentTable.Reaches` gives the fragments that selections spread, directly or through others, and
`FragmentTable.Loops` the ones that reach themselves.

`Inlines` has the rules of inlining. They keep the whole table inside a fragment, so only the names
that have been entered keep an expansion from going on. `inline_exact` says that the rules always
end, that `inline` has their outcome, and that the outcome is a failure exactly if a fragment is
reached that is unknown or loops. A fragment that is spread several times is no reason to fail, and
neither is one that several fragments share:

* `Inlines.reason`: a failure is caused by such a fragment. The fragments that have been entered
  reach everything that is spread inside them, so one that is entered again loops.
* `Inlines.sound`: after a success each reached fragment is known and does not loop, since inside a
  fragment it is one of those that have been entered.
-/

set_option autoImplicit false

namespace SelectionTypes

open Outcome

namespace FragmentTable

variable {table : FragmentTable} {name : String} {selections others : List Selection}

/-! ### Fragments that are reached -/

/-- A fragment that is spread in another one, at any depth. -/
def Spreads (table : FragmentTable) (name other : String) : Prop :=
  ∃ loaded, table.get? name = some loaded ∧ other ∈ Selection.spreadsOf loaded.fragment.selections

/-- A name that selections reach: one that is spread in them, at any depth, or in a fragment that
they reach. -/
def Reaches (table : FragmentTable) (selections : List Selection) (name : String) : Prop :=
  ∃ first ∈ Selection.spreadsOf selections, Relation.ReflTransGen table.Spreads first name

/-- A fragment that reaches itself. -/
def Loops (table : FragmentTable) (name : String) : Prop :=
  Relation.TransGen table.Spreads name name

/-- What a fragment reaches is what its selections reach. -/
theorem transGen_spreads_iff {loaded : LoadedFragment} (found : table.get? name = some loaded)
    {other : String} :
    Relation.TransGen table.Spreads name other ↔
      table.Reaches loaded.fragment.selections other := by
  rw [Relation.TransGen.head'_iff]
  constructor
  · rintro ⟨first, ⟨loaded', found', listed⟩, onward⟩
    cases found.symm.trans found'
    exact ⟨first, listed, onward⟩
  · rintro ⟨first, listed, onward⟩
    exact ⟨first, ⟨loaded, found, listed⟩, onward⟩

/-- No fragment is reached from no selections. -/
theorem not_reaches_nil : ¬ table.Reaches [] name := by
  simp [Reaches, Selection.spreadsOf]

/-- A fragment is reached from two lists if it is from one of them. -/
theorem reaches_append :
    table.Reaches (selections ++ others) name ↔
      table.Reaches selections name ∨ table.Reaches others name := by
  simp only [Reaches, Selection.spreadsOf_append, List.mem_append, or_and_right, exists_or]

/-- A fragment is reached from a field if it is from below it. -/
theorem reaches_field {head : FieldHead} {inner : List Selection} :
    table.Reaches (.field head inner :: selections) name ↔
      table.Reaches inner name ∨ table.Reaches selections name := by
  rw [← reaches_append, Reaches, Reaches, Selection.spreadsOf, Selection.spreadsOf_append]

/-- It is reached from an inline fragment if it is from its selections. -/
theorem reaches_inlined {condition : Option String} {directives : List Directive}
    {inner : List Selection} :
    table.Reaches (.inlined condition directives inner :: selections) name ↔
      table.Reaches inner name ∨ table.Reaches selections name := by
  rw [← reaches_append, Reaches, Reaches, Selection.spreadsOf, Selection.spreadsOf_append]

/-- A spread reaches the name of its fragment, and what that fragment reaches. -/
theorem reaches_spread {first : String} {directives : List Directive} :
    table.Reaches (.spread first directives :: selections) name ↔
      first = name ∨ Relation.TransGen table.Spreads first name ∨
        table.Reaches selections name := by
  unfold Reaches
  rw [Selection.spreadsOf, List.exists_mem_cons_iff, Relation.reflTransGen_iff_eq_or_transGen,
    or_assoc, eq_comm]

end FragmentTable

namespace Selection

variable {table original : FragmentTable} {entered : List String}
variable {selections inlined : List Selection} {name : String}
variable {outcome : Except GenerationError (List Selection)}

/-! ### The rules of inlining -/

/-- The rules by which selections inside the fragments `entered` are inlined, with their outcome. A
derivation is finite, so the expansion that it describes ends. -/
inductive Inlines (table : FragmentTable) :
    List String → List Selection → Except GenerationError (List Selection) → Prop
  | nil {entered : List String} : Inlines table entered [] (.ok [])
  | field {entered : List String} {head : FieldHead} {inner rest : List Selection}
      {below behind : Except GenerationError (List Selection)}
      (inside : Inlines table entered inner below) (after : Inlines table entered rest behind) :
      Inlines table entered (.field head inner :: rest) do
        let inner ← below
        let rest ← behind
        return .field head inner :: rest
  | inlined {entered : List String} {condition : Option String} {directives : List Directive}
      {inner rest : List Selection} {below behind : Except GenerationError (List Selection)}
      (inside : Inlines table entered inner below) (after : Inlines table entered rest behind) :
      Inlines table entered (.inlined condition directives inner :: rest) do
        let inner ← below
        let rest ← behind
        return .inlined condition directives inner :: rest
  /-- A spread of an unknown fragment, or of one that has been entered, ends the inlining. -/
  | unresolved {entered : List String} {name : String} {directives : List Directive}
      {rest : List Selection} {problem : GenerationError}
      (unresolved : table.resolve entered name = .error problem) :
      Inlines table entered (.spread name directives :: rest) (.error problem)
  | spread {entered : List String} {name : String} {directives : List Directive}
      {rest : List Selection} {loaded : LoadedFragment}
      {below behind : Except GenerationError (List Selection)}
      (resolved : table.resolve entered name = .ok loaded)
      (inside : Inlines table (name :: entered) loaded.fragment.selections below)
      (after : Inlines table entered rest behind) :
      Inlines table entered (.spread name directives :: rest) do
        let inner ← below
        let rest ← behind
        return .inlined (some loaded.fragment.onType) directives inner :: rest

/-- The rules derive what inlining gives: the table that it keeps inside fragments lacks nothing
that the rules ask for. -/
theorem inlines_inlineWithin (agrees : table.AgreesOutside entered original) :
    Inlines original entered selections (inlineWithin table entered selections) := by
  -- Along the inlining. The table without a fragment agrees with the original outside of what is
  -- entered, which is how a fragment is looked up.
  induction table, entered, selections using inlineWithin.induct with
  | case1 table entered =>
    rw [inlineWithin_nil]
    exact .nil
  | case2 table entered head inner rest ihInner ihRest =>
    rw [inlineWithin]
    exact .field (ihInner agrees) (ihRest agrees)
  | case3 table entered condition directives inner rest ihInner ihRest =>
    rw [inlineWithin]
    exact .inlined (ihInner agrees) (ihRest agrees)
  | case4 table entered name directives rest problem unresolved =>
    rw [inlineWithin_spread, unresolved]
    exact .unresolved (agrees.resolve_eq name ▸ unresolved)
  | case5 table entered name directives rest loaded resolved ihInner ihRest =>
    rw [inlineWithin_spread, resolved]
    exact .spread (agrees.resolve_eq name ▸ resolved) (ihInner (agrees.without name))
      (ihRest agrees)

/-- The rules derive one outcome. -/
theorem Inlines.unique {other : Except GenerationError (List Selection)}
    (first : Inlines table entered selections outcome)
    (second : Inlines table entered selections other) : outcome = other := by
  induction first generalizing other with
  | nil =>
    cases second
    rfl
  | field _ _ ihInside ihAfter =>
    cases second with
    | field inside after => rw [ihInside inside, ihAfter after]
  | inlined _ _ ihInside ihAfter =>
    cases second with
    | inlined inside after => rw [ihInside inside, ihAfter after]
  | unresolved unresolved =>
    -- Whether a spread can be entered does not depend on the rule.
    cases second with
    | unresolved unresolved' =>
      cases unresolved.symm.trans unresolved'
      rfl
    | spread resolved => cases unresolved.symm.trans resolved
  | spread resolved _ _ ihInside ihAfter =>
    cases second with
    | unresolved unresolved => cases resolved.symm.trans unresolved
    | spread resolved' inside after =>
      cases resolved.symm.trans resolved'
      rw [ihInside inside, ihAfter after]

/-! ### Failure and success -/

/-- An inlining that fails has met an unknown fragment, or one that loops. -/
theorem Inlines.reason (inlines : Inlines table entered selections outcome)
    (path : ∀ above ∈ entered, ∀ name, table.Reaches selections name →
      Relation.TransGen table.Spreads above name)
    {problem : GenerationError} (fails : outcome = .error problem) :
    ∃ name, table.Reaches selections name ∧
      ((table.get? name = none ∧ problem = .unknownFragment name) ∨
        (table.Loops name ∧ problem = .fragmentCycle name)) := by
  -- Along the rules: what is reached inside fragments is reached from each entered one.
  induction inlines with
  | nil => cases fails
  | field _ _ ihInside ihAfter =>
    simp only [FragmentTable.reaches_field, or_imp, forall_and] at path
    simp only [FragmentTable.reaches_field, or_and_right, exists_or]
    exact (both_eq_error fails).imp (ihInside path.1) (ihAfter path.2)
  | inlined _ _ ihInside ihAfter =>
    simp only [FragmentTable.reaches_inlined, or_imp, forall_and] at path
    simp only [FragmentTable.reaches_inlined, or_and_right, exists_or]
    exact (both_eq_error fails).imp (ihInside path.1) (ihAfter path.2)
  | @unresolved entered name directives rest _ unresolved =>
    cases fails
    have own : table.Reaches (.spread name directives :: rest) name :=
      FragmentTable.reaches_spread.mpr (.inl rfl)
    rcases FragmentTable.resolve_eq_error.mp unresolved with ⟨inside, rfl⟩ | ⟨-, unknown, rfl⟩
    · exact ⟨name, own, .inr ⟨path name inside name own, rfl⟩⟩
    · exact ⟨name, own, .inl ⟨unknown, rfl⟩⟩
  | @spread entered name directives rest loaded _ _ resolved _ _ ihInside ihAfter =>
    have within := @FragmentTable.transGen_spreads_iff table name loaded
      (FragmentTable.resolve_eq_ok.mp resolved).2
    simp only [FragmentTable.reaches_spread, or_imp, forall_and] at path
    simp only [FragmentTable.reaches_spread, or_and_right, exists_or]
    -- The fragment that is entered is the last one of the path.
    have pathInside : ∀ above ∈ name :: entered, ∀ other,
        table.Reaches loaded.fragment.selections other →
          Relation.TransGen table.Spreads above other := by
      intro above inside other reached
      rcases List.mem_cons.mp inside with rfl | inside
      · exact within.mpr reached
      · exact path.2.1 above inside other (within.mpr reached)
    rcases both_eq_error fails with own | own
    · obtain ⟨other, reached, cause⟩ := ihInside pathInside own
      exact .inr (.inl ⟨other, within.mpr reached, cause⟩)
    · exact .inr (.inr (ihAfter path.2.2 own))

/-- After an inlining that succeeds, each reached fragment has not been entered, is known and does
not loop. -/
theorem Inlines.sound (inlines : Inlines table entered selections outcome)
    (succeeds : outcome = .ok inlined) {name : String} (reached : table.Reaches selections name) :
    name ∉ entered ∧ (table.get? name).isSome ∧ ¬ table.Loops name := by
  induction inlines generalizing inlined with
  | nil => exact absurd reached FragmentTable.not_reaches_nil
  | field _ _ ihInside ihAfter =>
    obtain ⟨_, _, inside, after, -⟩ := both_eq_ok.mp succeeds
    exact (FragmentTable.reaches_field.mp reached).elim (ihInside inside) (ihAfter after)
  | inlined _ _ ihInside ihAfter =>
    obtain ⟨_, _, inside, after, -⟩ := both_eq_ok.mp succeeds
    exact (FragmentTable.reaches_inlined.mp reached).elim (ihInside inside) (ihAfter after)
  | unresolved => cases succeeds
  | @spread entered first directives rest loaded _ _ resolved _ _ ihInside ihAfter =>
    obtain ⟨new, found⟩ := FragmentTable.resolve_eq_ok.mp resolved
    have within := @FragmentTable.transGen_spreads_iff table first loaded found
    obtain ⟨_, _, inside, after, -⟩ := both_eq_ok.mp succeeds
    rcases FragmentTable.reaches_spread.mp reached with rfl | below | reached
    · -- Inside the fragment it is entered, so it is not reached again.
      refine ⟨new, by rw [found]; rfl, fun loops => ?_⟩
      exact (ihInside inside (within.mp loops)).1 List.mem_cons_self
    · obtain ⟨outside, known⟩ := ihInside inside (within.mp below)
      exact ⟨fun member => outside (List.mem_cons_of_mem first member), known⟩
    · exact ihAfter after reached

/-- Selections that can be inlined reach no fragment that loops. -/
theorem not_loops_of_inline (inlines : inline table selections = .ok inlined) {name : String}
    (reached : table.Reaches selections name) : ¬ table.Loops name :=
  ((inlines_inlineWithin (.refl table)).sound inlines reached).2.2

/-- Inlining fails for an unknown or looping fragment that is reached, or it leaves no spread, and
each fragment that is reached is known and does not loop. -/
theorem inline_cases (table : FragmentTable) (selections : List Selection) :
    (∃ problem name, inline table selections = .error problem ∧
        problem.category = .typeResolution ∧
        table.Reaches selections name ∧ (table.get? name = none ∨ table.Loops name)) ∨
      ∃ inlined, inline table selections = .ok inlined ∧ spreadsOf inlined = [] ∧
        ∀ name, table.Reaches selections name → (table.get? name).isSome ∧ ¬ table.Loops name := by
  have derives : Inlines table [] selections (inline table selections) :=
    inlines_inlineWithin (.refl table)
  cases ends : inline table selections with
  | error problem =>
    -- At the beginning nothing is entered, so no fragment can be reached from what is.
    have noPath : ∀ above ∈ ([] : List String), ∀ name, table.Reaches selections name →
        Relation.TransGen table.Spreads above name := List.forall_mem_nil _
    obtain ⟨name, reached, ⟨unknown, rfl⟩ | ⟨loops, rfl⟩⟩ := derives.reason noPath ends
    · exact .inl ⟨_, name, rfl, rfl, reached, .inl unknown⟩
    · exact .inl ⟨_, name, rfl, rfl, reached, .inr loops⟩
  | ok inlined =>
    exact .inr ⟨inlined, rfl, spreadsOf_inlineWithin ends, fun name reached =>
      (derives.sound ends reached).2⟩

/-- Inlining by the rules always ends, with one outcome, and that is the outcome of `inline`. It
fails exactly if an unknown fragment is reached, or one that reaches itself, and otherwise no spread
is left at any depth. How often a fragment is spread does not matter. -/
theorem inline_exact (table : FragmentTable) (selections : List Selection) :
    (∀ outcome, Inlines table [] selections outcome ↔ outcome = inline table selections) ∧
    ((∃ problem, inline table selections = .error problem ∧ problem.category = .typeResolution) ↔
      ∃ name, table.Reaches selections name ∧ (table.get? name = none ∨ table.Loops name)) ∧
    ((∃ inlined, inline table selections = .ok inlined ∧ spreadsOf inlined = []) ↔
      ∀ name, table.Reaches selections name → (table.get? name).isSome ∧ ¬ table.Loops name) := by
  have derives : Inlines table [] selections (inline table selections) :=
    inlines_inlineWithin (.refl table)
  refine ⟨fun outcome => ⟨fun other => other.unique derives, fun same => same ▸ derives⟩, ?_⟩
  -- A known fragment that does not loop is no cause of a failure.
  have apart : (∀ name, table.Reaches selections name →
      (table.get? name).isSome ∧ ¬ table.Loops name) →
      ¬ ∃ name, table.Reaches selections name ∧ (table.get? name = none ∨ table.Loops name) := by
    rintro all ⟨name, reached, unknown | loops⟩
    · simpa [unknown] using (all name reached).1
    · exact (all name reached).2 loops
  rcases inline_cases table selections with ⟨problem, name, fails, category, cause⟩ |
    ⟨inlined, succeeds, free, all⟩
  · constructor
    · exact ⟨fun _ => ⟨name, cause⟩, fun _ => ⟨problem, fails, category⟩⟩
    · refine ⟨fun ⟨_, succeeds, _⟩ => ?_, fun all => absurd ⟨name, cause⟩ (apart all)⟩
      cases fails.symm.trans succeeds
  · constructor
    · refine ⟨fun ⟨_, fails, _⟩ => ?_, fun cause => absurd cause (apart all)⟩
      cases succeeds.symm.trans fails
    · exact ⟨fun _ => all, fun _ => ⟨inlined, succeeds, free⟩⟩

end Selection

end SelectionTypes
