import Mathlib.Logic.Relation
import Mathlib.Order.Bounds.Defs
import SelectionTypes.Proofs.Schema.WellFormed
import SelectionTypes.Proofs.Support.Lists
import SelectionTypes.Schema.Closure

/-!
# `SelectionTypes.Proofs.Schema.Closure`: the closure is reachability

`Schema.Needs` says which types seeds need: the seeds, and the fielded types of the fields of a
needed type. `Schema.closure` finds the types that needed types refer to, in rounds, and
`Schema.requiredTypes` has the seeds as well. `mem_closure` and `mem_requiredTypes` say that they
find exactly these.

A round keeps one invariant: what a found type refers to is found as well, unless the type is in
the frontier (`mem_closureFrom_of_refers`). In the last round the frontier refers to nothing new.

What is needed does not depend on the order of seeds or on their repetition, and several seeds
need what each of them needs (`needs_iff_exists`).

`closure_reached_required_least` says the same without rounds and without needs. The closure has the
ends of the chains of references that begin at a seed. The required types are the least names that
include the seeds and all that they refer to.
-/

set_option autoImplicit false

namespace SelectionTypes.Schema

variable {schema : Schema} {seeds found frontier : List String} {name parent : String}

/-- The types that seeds need. -/
inductive Needs (schema : Schema) (seeds : List String) : String → Prop
  | seed {name : String} (listed : name ∈ seeds) : Needs schema seeds name
  | field {parent name : String} (needed : Needs schema seeds parent)
      (refers : name ∈ schema.fieldReferences parent) : Needs schema seeds name

/-! ### One kind of step -/

/-- The new references are those of the frontier that were not found before. -/
theorem mem_newReferences :
    name ∈ schema.newReferences found frontier ↔
      (∃ parent ∈ frontier, name ∈ schema.fieldReferences parent) ∧ name ∉ found := by
  simp [newReferences]

/-- A search that meets nothing new ends, and any other goes on from what it meets. -/
theorem closureFrom_eq (schema : Schema) (found frontier : List String) :
    schema.closureFrom found frontier =
      if schema.newReferences found frontier = [] then found
      else schema.closureFrom (found ++ schema.newReferences found frontier)
        (schema.newReferences found frontier) := by
  rw [closureFrom]
  split
  · next none => rw [if_pos none]
  · next some =>
    rw [some, if_neg (List.cons_ne_nil _ _)]

/-- What is new in a round is new once, and not found before. -/
theorem nodup_append_newReferences (distinct : found.Nodup) :
    (found ++ schema.newReferences found frontier).Nodup := by
  refine distinct.append ((Lists.nodup_eraseDups _).filter _) fun name isFound isNew => ?_
  exact (mem_newReferences.mp isNew).2 isFound

/-- A search finds nothing twice. -/
theorem nodup_closureFrom (distinct : found.Nodup) :
    (schema.closureFrom found frontier).Nodup := by
  induction found, frontier using closureFrom.induct schema with
  | case1 found frontier none => rwa [closureFrom_eq, if_pos none]
  | case2 found frontier first rest some ih =>
    have round : (found ++ schema.newReferences found frontier).Nodup :=
      nodup_append_newReferences distinct
    rw [some] at round
    rw [closureFrom_eq, some, if_neg (List.cons_ne_nil _ _)]
    exact ih round

/-! ### Only what is needed -/

/-- What a search finds is found before, or a needed type refers to it. -/
theorem exists_parent_of_mem_closureFrom
    (needed : ∀ parent ∈ frontier, schema.Needs seeds parent)
    (inside : name ∈ schema.closureFrom found frontier) :
    name ∈ found ∨ ∃ parent, schema.Needs seeds parent ∧ name ∈ schema.fieldReferences parent := by
  induction found, frontier using closureFrom.induct schema with
  | case1 found frontier none =>
    rw [closureFrom_eq, if_pos none] at inside
    exact .inl inside
  | case2 found frontier first rest some ih =>
    -- The next frontier is referred to from this one.
    have fresh : ∀ other ∈ first :: rest,
        ∃ parent, schema.Needs seeds parent ∧ other ∈ schema.fieldReferences parent := by
      intro other listed
      rw [← some] at listed
      obtain ⟨⟨parent, inFrontier, refers⟩, -⟩ := mem_newReferences.mp listed
      exact ⟨parent, needed parent inFrontier, refers⟩
    rw [closureFrom_eq, some, if_neg (List.cons_ne_nil _ _)] at inside
    have next : ∀ other ∈ first :: rest, schema.Needs seeds other := by
      intro other listed
      obtain ⟨parent, above, refers⟩ := fresh other listed
      exact .field above refers
    rcases ih next inside with inside | inside
    · exact (List.mem_append.mp inside).imp_right (fresh name)
    · exact .inr inside

/-! ### All that is needed -/

/-- A search keeps what it has found and finds what the frontier refers to. -/
theorem subset_closureFrom :
    found ⊆ schema.closureFrom found frontier ∧
      ∀ parent ∈ frontier, schema.fieldReferences parent ⊆ schema.closureFrom found frontier := by
  induction found, frontier using closureFrom.induct schema with
  | case1 found frontier none =>
    rw [closureFrom_eq, if_pos none]
    refine ⟨List.Subset.refl _, fun parent inFrontier other refers => ?_⟩
    by_contra outside
    have fresh := mem_newReferences.mpr ⟨⟨parent, inFrontier, refers⟩, outside⟩
    rw [none] at fresh
    cases fresh
  | case2 found frontier first rest some ih =>
    rw [closureFrom_eq, some, if_neg (List.cons_ne_nil _ _)]
    refine ⟨List.Subset.trans (List.subset_append_left _ _) ih.1,
      fun parent inFrontier other refers => ?_⟩
    -- A reference is found already, or it is new in this round.
    apply ih.1
    by_cases known : other ∈ found
    · exact List.mem_append_left _ known
    · refine List.mem_append_right _ ?_
      rw [← some]
      exact mem_newReferences.mpr ⟨⟨parent, inFrontier, refers⟩, known⟩

/-- Where all that found types refer to is found, apart from those of the frontier, the same holds
of the result without the exception. -/
theorem mem_closureFrom_of_refers
    (closed : ∀ parent ∈ found, parent ∉ frontier → schema.fieldReferences parent ⊆ found)
    (inside : parent ∈ schema.closureFrom found frontier)
    (refers : name ∈ schema.fieldReferences parent) :
    name ∈ schema.closureFrom found frontier := by
  induction found, frontier using closureFrom.induct schema with
  | case1 found frontier none =>
    have all := @subset_closureFrom schema found frontier
    rw [closureFrom_eq, if_pos none] at inside all ⊢
    by_cases inFrontier : parent ∈ frontier
    · exact all.2 parent inFrontier refers
    · exact closed parent inside inFrontier refers
  | case2 found frontier first rest some ih =>
    have all := @subset_closureFrom schema found frontier
    rw [closureFrom_eq, some, if_neg (List.cons_ne_nil _ _)] at inside all ⊢
    refine ih (fun parent isFound outside other refers => ?_) inside
    -- Types that are not new were found before, and the old frontier is closed by this round.
    have old : parent ∈ found := (List.mem_append.mp isFound).resolve_right outside
    by_cases inFrontier : parent ∈ frontier
    · by_cases known : other ∈ found
      · exact List.mem_append_left _ known
      · refine List.mem_append_right _ ?_
        rw [← some]
        exact mem_newReferences.mpr ⟨⟨parent, inFrontier, refers⟩, known⟩
    · exact List.mem_append_left _ (closed parent old inFrontier refers)

/-- The closure has the types that needed types refer to. -/
theorem mem_closure :
    name ∈ schema.closure seeds ↔
      ∃ parent, schema.Needs seeds parent ∧ name ∈ schema.fieldReferences parent := by
  constructor
  · intro inside
    have found := exists_parent_of_mem_closureFrom (fun _ listed => Needs.seed listed) inside
    exact found.resolve_left List.not_mem_nil
  · rintro ⟨parent, needed, refers⟩
    induction needed generalizing name with
    | seed listed => exact subset_closureFrom.2 _ listed refers
    | field _ above ih =>
      exact mem_closureFrom_of_refers (fun _ listed => nomatch listed) (ih above) refers

/-- The required types are the types that the seeds need. -/
theorem mem_requiredTypes : name ∈ schema.requiredTypes seeds ↔ schema.Needs seeds name := by
  unfold requiredTypes
  rw [List.mem_eraseDups, List.mem_append, mem_closure]
  constructor
  · rintro (listed | ⟨parent, needed, refers⟩)
    · exact .seed listed
    · exact .field needed refers
  · intro needed
    cases needed with
    | seed listed => exact .inl listed
    | field needed refers => exact .inr ⟨_, needed, refers⟩

/-! ### Seeds -/

/-- More seeds need more types. -/
theorem Needs.mono {more : List String} (needed : schema.Needs seeds name) (subset : seeds ⊆ more) :
    schema.Needs more name := by
  induction needed with
  | seed listed => exact .seed (subset listed)
  | field needed refers ih => exact .field ih refers

/-- Several seeds need what one of them needs. -/
theorem needs_iff_exists : schema.Needs seeds name ↔ ∃ seed ∈ seeds, schema.Needs [seed] name := by
  constructor
  · intro needed
    induction needed with
    | @seed name listed => exact ⟨name, listed, .seed (List.mem_singleton_self name)⟩
    | field needed refers ih =>
      obtain ⟨seed, listed, own⟩ := ih
      exact ⟨seed, listed, .field own refers⟩
  · rintro ⟨seed, listed, own⟩
    exact own.mono (List.cons_subset.mpr ⟨listed, List.nil_subset _⟩)

/-- A reference is the type of a field and has fields. -/
theorem mem_fieldReferences :
    name ∈ schema.fieldReferences parent ↔
      ∃ type, schema.type? parent = some type ∧ (∃ field ∈ type.fieldTypes, field.2.base = name) ∧
        schema.isFielded name = true := by
  unfold fieldReferences
  cases schema.type? parent with
  | none => simp
  | some type => simp [List.mem_filter, List.mem_map]

/-! ### Chains of references -/

/-- A type with fields refers to the types with fields that its fields have. -/
def RefersTo (schema : Schema) (parent name : String) : Prop :=
  schema.isFielded parent = true ∧ schema.isFielded name = true ∧
    ∃ type, schema.type? parent = some type ∧ ∃ field ∈ type.fieldTypes, field.2.base = name

/-- Names that include all that they refer to. -/
def IsClosed (schema : Schema) (names : Set String) : Prop :=
  ∀ parent ∈ names, ∀ name, schema.RefersTo parent name → name ∈ names

/-- A type refers to a name exactly if the name is among the references of its fields. -/
theorem refersTo_iff : schema.RefersTo parent name ↔ name ∈ schema.fieldReferences parent := by
  rw [mem_fieldReferences]
  constructor
  · rintro ⟨-, fielded, type, found, field⟩
    exact ⟨type, found, field, fielded⟩
  · rintro ⟨type, found, field, fielded⟩
    refine ⟨?_, fielded, type, found, field⟩
    -- Only types with fields have types of fields.
    obtain ⟨entry, listed, -⟩ := field
    unfold TypeDefinition.fieldTypes at listed
    rw [isFielded, kind?, found]
    unfold TypeDefinition.kind
    cases body : type.body <;> simp_all [TypeKind.isFielded]

/-- The closure has the ends of the chains of references that begin at a seed. -/
theorem mem_closure_iff_chain :
    name ∈ schema.closure seeds ↔ ∃ seed ∈ seeds, Relation.TransGen schema.RefersTo seed name := by
  rw [mem_closure]
  constructor
  · rintro ⟨parent, needed, refers⟩
    -- A needed type is a seed or the end of a chain, which the last reference makes longer.
    induction needed generalizing name with
    | seed listed => exact ⟨_, listed, .single (refersTo_iff.mpr refers)⟩
    | field _ above ih =>
      obtain ⟨seed, listed, chain⟩ := ih above
      exact ⟨seed, listed, .tail chain (refersTo_iff.mpr refers)⟩
  · rintro ⟨seed, listed, chain⟩
    -- Along the chain: all its types but the last one are needed.
    induction chain with
    | single refers => exact ⟨seed, .seed listed, refersTo_iff.mp refers⟩
    | tail _ refers ih =>
      obtain ⟨above, needed, refers'⟩ := ih
      exact ⟨_, .field needed refers', refersTo_iff.mp refers⟩

/-- The required types include the seeds and all that they refer to, and other names that do so
include them. -/
theorem isLeast_requiredTypes (schema : Schema) (seeds : List String) :
    IsLeast {names : Set String | {name | name ∈ seeds} ⊆ names ∧ schema.IsClosed names}
      {name | name ∈ schema.requiredTypes seeds} := by
  refine ⟨⟨fun name listed => ?_, fun parent inside name refers => ?_⟩, fun names others name => ?_⟩
  · exact mem_requiredTypes.mpr (.seed listed)
  · exact mem_requiredTypes.mpr (.field (mem_requiredTypes.mp inside) (refersTo_iff.mp refers))
  · obtain ⟨listed, closed⟩ := others
    intro required
    induction mem_requiredTypes.mp required with
    | seed isSeed => exact listed isSeed
    | field needed refers ih =>
      exact closed _ (ih (mem_requiredTypes.mpr needed)) _ (refersTo_iff.mpr refers)

/-- What several lists of seeds need, one of them needs. -/
theorem needs_append {others : List String} :
    schema.Needs (seeds ++ others) name ↔ schema.Needs seeds name ∨ schema.Needs others name := by
  rw [needs_iff_exists, @needs_iff_exists schema seeds, @needs_iff_exists schema others]
  simp only [List.mem_append, or_and_right, exists_or]

/-- The closure has the ends of the chains of references from seeds, each once. So it has a type, be
it a seed or not, exactly if a required type refers to it. The required types are the least names
that include the seeds and all that they refer to. Types that are required by required types are
required, more seeds require more, and the seeds of two lists require what those of one of them
require. -/
theorem closure_reached_required_least (schema : Schema) (seeds : List String) :
    ((schema.closure seeds).Nodup ∧ ∀ name, name ∈ schema.closure seeds ↔
      ∃ seed ∈ seeds, Relation.TransGen schema.RefersTo seed name) ∧
    (∀ name, name ∈ schema.closure seeds ↔
      ∃ parent ∈ schema.requiredTypes seeds, schema.RefersTo parent name) ∧
    IsLeast {names : Set String | {name | name ∈ seeds} ⊆ names ∧ schema.IsClosed names}
      {name | name ∈ schema.requiredTypes seeds} ∧
    (∀ name, name ∈ schema.requiredTypes (schema.requiredTypes seeds) ↔
      name ∈ schema.requiredTypes seeds) ∧
    (∀ more, seeds ⊆ more → schema.requiredTypes seeds ⊆ schema.requiredTypes more) ∧
    ∀ others name, name ∈ schema.requiredTypes (seeds ++ others) ↔
      name ∈ schema.requiredTypes seeds ∨ name ∈ schema.requiredTypes others := by
  refine ⟨⟨nodup_closureFrom List.nodup_nil, fun name => mem_closure_iff_chain⟩, fun name => ?_,
    isLeast_requiredTypes schema seeds, fun name => ?_, fun more subset name inside => ?_,
    fun others name => ?_⟩
  · simp only [mem_closure, mem_requiredTypes, refersTo_iff]
  · -- The required types are closed, so they include what they require.
    have closed := (isLeast_requiredTypes schema seeds).1.2
    have least := (isLeast_requiredTypes schema (schema.requiredTypes seeds)).2
    exact ⟨fun inside => least ⟨fun _ listed => listed, closed⟩ inside,
      fun inside => mem_requiredTypes.mpr (.seed inside)⟩
  · exact mem_requiredTypes.mpr ((mem_requiredTypes.mp inside).mono subset)
  · simp only [mem_requiredTypes, needs_append]

/-- Pets are friends of pets, so they are reached from themselves, and from a query. The query is
required as a seed, but nothing refers to it. -/
theorem reached_pets :
    (∀ name, name ∈ pets.closure ["Query", "Nowhere", "Query"] ↔
      ∃ seed ∈ ["Query", "Nowhere", "Query"], Relation.TransGen pets.RefersTo seed name) ∧
    pets.closure ["Query", "Nowhere", "Query"] = ["Pet"] ∧
    ["Query"] ⊆ ["Nowhere", "Query"] ∧
    pets.requiredTypes ["Query"] ⊆ pets.requiredTypes ["Nowhere", "Query"] := by
  have subset : ["Query"] ⊆ ["Nowhere", "Query"] := by decide
  exact ⟨(closure_reached_required_least pets _).1.2, by decide +kernel, subset,
    (closure_reached_required_least pets ["Query"]).2.2.2.2.1 _ subset⟩

end SelectionTypes.Schema
