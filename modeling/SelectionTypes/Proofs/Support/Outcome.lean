import SelectionTypes.Proofs.Support.Lists

/-!
# `SelectionTypes.Proofs.Support.Outcome`: computations that may fail

Generation runs in `Except`. The lemmas here take such a computation apart: a sequence succeeds
exactly if each of its steps does, and a traversal succeeds exactly if it does on every element.

* `bind_eq_ok` and `mapM_eq_ok` are what later modules use in place of unfolding `Except`.
* `Alike` says that two outcomes are of one kind, with corresponding causes where both fail and
  corresponding values where both succeed. `Alike Eq Eq` is equality, and under `anyCause` the
  failures of two runs may differ.
* `Settles` says that one outcome is another, unless that is a failure which leaves it open.
-/

set_option autoImplicit false

namespace SelectionTypes.Outcome

variable {ε α β γ δ : Type}

/-- A sequence of two steps succeeds exactly if both do. -/
theorem bind_eq_ok {first : Except ε α} {next : α → Except ε β} {result : β} :
    (first >>= next) = .ok result ↔ ∃ value, first = .ok value ∧ next value = .ok result := by
  cases first <;> simp [bind, Except.bind]

/-- A success is no failure. -/
theorem ok_ne_error {value : α} {cause : ε} : Except.ok value ≠ Except.error cause := by
  intro same
  cases same

/-- A sequence fails for a cause only if one of its steps does. -/
theorem bind_ne_error {first : Except ε α} {next : α → Except ε β} {cause : ε}
    (here : first ≠ .error cause)
    (behind : ∀ value, first = .ok value → next value ≠ .error cause) :
    (first >>= next) ≠ .error cause := by
  cases first with
  | error other =>
    intro fails
    cases fails
    exact here rfl
  | ok value => exact behind value rfl

/-- A step with a pure function behind it succeeds exactly if the step does. -/
theorem map_eq_ok {first : Except ε α} {f : α → β} {result : β} :
    f <$> first = .ok result ↔ ∃ value, first = .ok value ∧ f value = result := by
  cases first <;> simp [Functor.map, Except.map]

/-- Whether a computation succeeds can be computed. -/
theorem exists_ok {first : Except ε α} (succeeds : first.toBool = true) :
    ∃ value, first = .ok value := by
  cases first with
  | error cause => cases succeeds
  | ok value => exact ⟨value, rfl⟩

/-- A renamed failure is no success. -/
theorem mapError_eq_ok {first : Except ε α} {f : ε → β} {result : α} :
    first.mapError f = .ok result ↔ first = .ok result := by
  cases first <;> simp [Except.mapError]

/-- Two independent steps succeed exactly if each does. -/
theorem both_eq_ok {first : Except ε α} {second : Except ε β} {combine : α → β → γ} {result : γ} :
    (do let value ← first
        let other ← second
        return combine value other) = .ok result ↔
      ∃ value other, first = .ok value ∧ second = .ok other ∧ result = combine value other := by
  cases first <;> cases second <;> simp [bind, Except.bind, pure, Except.pure, eq_comm]

/-- Two independent steps fail for the cause of one of them. -/
theorem both_eq_error {first : Except ε α} {second : Except ε β} {combine : α → β → γ} {cause : ε}
    (fails : (do let value ← first
                 let other ← second
                 return combine value other) = .error cause) :
    first = .error cause ∨ second = .error cause := by
  cases first with
  | error other =>
    cases fails
    exact .inl rfl
  | ok value =>
    cases second with
    | error other =>
      cases fails
      exact .inr rfl
    | ok other => cases fails

/-- A traversal succeeds exactly if it succeeds on each element, with the results in order. -/
theorem mapM_eq_ok {f : α → Except ε β} {items : List α} {results : List β} :
    items.mapM f = .ok results ↔ List.Forall₂ (fun item result => f item = .ok result) items
      results := by
  -- On the list: the first element and the rest are two steps, which both have to succeed.
  induction items generalizing results with
  | nil => simp [pure, Except.pure, eq_comm]
  | cons item items ih =>
    rw [List.mapM_cons, bind_eq_ok, List.forall₂_cons_left_iff]
    constructor
    · rintro ⟨result, first, rest⟩
      obtain ⟨others, traversed, assembled⟩ := bind_eq_ok.mp rest
      cases assembled
      exact ⟨result, others, first, ih.mp traversed, rfl⟩
    · rintro ⟨result, others, first, rest, rfl⟩
      exact ⟨result, first, bind_eq_ok.mpr ⟨others, ih.mpr rest, rfl⟩⟩

/-- What each step of a traversal keeps, the traversal keeps in order. -/
theorem map_eq_of_mapM {f : α → Except ε β} {g : α → γ} {h : β → γ}
    (kept : ∀ item result, f item = .ok result → h result = g item) {items : List α}
    {results : List β} (succeeds : items.mapM f = .ok results) : results.map h = items.map g := by
  have each := mapM_eq_ok.mp succeeds
  clear succeeds
  induction each with
  | nil => rfl
  | cons first rest ih => rw [List.map_cons, List.map_cons, kept _ _ first, ih]

/-- A traversal succeeds if it does on each element. -/
theorem exists_mapM {f : α → Except ε β} {items : List α}
    (each : ∀ item ∈ items, ∃ result, f item = .ok result) :
    ∃ results, items.mapM f = .ok results := by
  induction items with
  | nil => exact ⟨[], rfl⟩
  | cons item rest ih =>
    rw [List.forall_mem_cons] at each
    obtain ⟨first, isFirst⟩ := each.1
    obtain ⟨others, traversed⟩ := ih each.2
    exact ⟨first :: others, mapM_eq_ok.mpr (.cons isFirst (mapM_eq_ok.mp traversed))⟩

/-- A traversal fails for a cause only if it does on an element. -/
theorem mapM_ne_error {f : α → Except ε β} {items : List α} {cause : ε}
    (each : ∀ item ∈ items, f item ≠ .error cause) : items.mapM f ≠ .error cause := by
  induction items with
  | nil => exact ok_ne_error
  | cons item rest ih =>
    rw [List.forall_mem_cons] at each
    rw [List.mapM_cons]
    exact bind_ne_error each.1 fun _ _ => bind_ne_error (ih each.2) fun _ _ => ok_ne_error

/-- A traversal by two functions that agree on the elements is one traversal. -/
theorem mapM_congr {f g : α → Except ε β} {items : List α}
    (agree : ∀ item ∈ items, f item = g item) : items.mapM f = items.mapM g := by
  induction items with
  | nil => rfl
  | cons item items ih =>
    rw [List.mapM_cons, List.mapM_cons, agree item List.mem_cons_self,
      ih fun other inside => agree other (List.mem_cons_of_mem item inside)]

/-- Traversals that cannot differ on any element cannot differ. -/
theorem mapM_unique {f g : α → Except ε β} {items : List α} {results others : List β}
    (each : ∀ item ∈ items, ∀ result other, f item = .ok result → g item = .ok other →
      result = other) (first : items.mapM f = .ok results) (second : items.mapM g = .ok others) :
    results = others := by
  have same : results.map id = others :=
    Lists.map_eq_of_forall₂ (fun item inside other result own own' =>
      each item inside result other own' own) (mapM_eq_ok.mp second) (mapM_eq_ok.mp first)
  rwa [List.map_id] at same

/-- A traversal of the results of a traversal takes both steps on each element. -/
theorem mapM_bind_eq_ok {f : α → Except ε β} {g : β → Except ε γ} {items : List α}
    {middle : List β} {results : List γ} (first : items.mapM f = .ok middle)
    (second : middle.mapM g = .ok results) :
    items.mapM (fun item => f item >>= g) = .ok results := by
  have each := mapM_eq_ok.mp first
  clear first
  induction each generalizing results with
  | nil => exact second
  | cons own _ ih =>
    cases mapM_eq_ok.mp second with
    | cons next behind =>
      have rest := mapM_eq_ok.mp (ih (mapM_eq_ok.mpr behind))
      exact mapM_eq_ok.mpr (.cons (bind_eq_ok.mpr ⟨_, own, next⟩) rest)

/-- A traversal of what belongs to some items is a traversal for each item. -/
theorem mapM_flatMap_eq_ok {f : α → Except ε β} {parts : γ → List α} {items : List γ}
    {results : List β} :
    (items.flatMap parts).mapM f = .ok results ↔
      ∃ groups, items.mapM (fun item => (parts item).mapM f) = .ok groups ∧
        results = groups.flatten := by
  induction items generalizing results with
  | nil => simp [pure, Except.pure, eq_comm]
  | cons item rest ih =>
    rw [List.flatMap_cons, List.mapM_append, List.mapM_cons]
    simp only [both_eq_ok, ih]
    constructor
    · rintro ⟨first, _, own, ⟨groups, behind, rfl⟩, rfl⟩
      exact ⟨first :: groups, ⟨first, groups, own, behind, rfl⟩, rfl⟩
    · rintro ⟨_, ⟨first, groups, own, behind, rfl⟩, rfl⟩
      exact ⟨first, groups.flatten, own, ⟨groups, behind, rfl⟩, rfl⟩

/-- Two computations end in the same way: both fail, with causes that correspond, or both succeed,
with values that correspond. -/
inductive Alike (causes : ε → ε → Prop) (related : α → β → Prop) :
    Except ε α → Except ε β → Prop
  | error {first second : ε} (both : causes first second) :
      Alike causes related (.error first) (.error second)
  | ok {first : α} {second : β} (values : related first second) :
      Alike causes related (.ok first) (.ok second)

/-- Any cause of failure corresponds to any other. -/
def anyCause (_ _ : ε) : Prop :=
  True

namespace Alike

variable {causes : ε → ε → Prop} {related : α → β → Prop}

/-- Where the first of two like computations succeeds, so does the second. -/
theorem forward {first : Except ε α} {second : Except ε β}
    (like : Alike causes related first second) {value : α} (succeeds : first = .ok value) :
    ∃ other, second = .ok other ∧ related value other := by
  cases like with
  | error => cases succeeds
  | ok values =>
    cases succeeds
    exact ⟨_, rfl, values⟩

/-- Where the second of two like computations succeeds, so does the first. -/
theorem backward {first : Except ε α} {second : Except ε β}
    (like : Alike causes related first second) {value : β} (succeeds : second = .ok value) :
    ∃ other, first = .ok other ∧ related other value := by
  cases like with
  | error => cases succeeds
  | ok values =>
    cases succeeds
    exact ⟨_, rfl, values⟩

/-- Like computations with equal causes and equal values are equal. -/
theorem eq {first second : Except ε α} (like : Alike Eq Eq first second) : first = second := by
  cases like with
  | error both => rw [both]
  | ok values => rw [values]

/-- Equal computations are alike in the strongest sense. -/
theorem of_eq {first second : Except ε α} (same : first = second) : Alike Eq Eq first second := by
  subst same
  cases first with
  | error => exact .error rfl
  | ok => exact .ok rfl

/-- Computations are alike in a weaker sense if they are in a stronger one. -/
theorem imp {causes' : ε → ε → Prop} {related' : α → β → Prop} {first : Except ε α}
    {second : Except ε β} (like : Alike causes related first second)
    (failures : ∀ {cause other}, causes cause other → causes' cause other)
    (values : ∀ {value other}, related value other → related' value other) :
    Alike causes' related' first second := by
  cases like with
  | error both => exact .error (failures both)
  | ok both => exact .ok (values both)

/-- Computations that succeed together, with related values, are alike whatever their failures. -/
theorem of_ok_iff {first : Except ε α} {second : Except ε β}
    (forward : ∀ value, first = .ok value → ∃ other, second = .ok other ∧ related value other)
    (backward : ∀ other, second = .ok other → ∃ value, first = .ok value) :
    Alike anyCause related first second := by
  cases first with
  | ok value =>
    obtain ⟨other, rfl, values⟩ := forward value rfl
    exact .ok values
  | error problem =>
    cases second with
    | error other => exact .error trivial
    | ok other =>
      obtain ⟨value, impossible⟩ := backward other rfl
      cases impossible

/-- Sequences are alike if their first steps are and what follows related values is. -/
theorem bind {results : γ → δ → Prop} {first : Except ε α} {second : Except ε β}
    (like : Alike causes related first second) {next : α → Except ε γ} {other : β → Except ε δ}
    (follow : ∀ value result, first = .ok value → second = .ok result → related value result →
      Alike causes results (next value) (other result)) :
    Alike causes results (first >>= next) (second >>= other) := by
  cases like with
  | error both => exact .error both
  | ok values => exact follow _ _ rfl rfl values

/-- Traversals are alike if they are on corresponding elements. -/
theorem mapM {results : γ → δ → Prop} {f : α → Except ε γ} {g : β → Except ε δ} {items : List α}
    {others : List β}
    (each : List.Forall₂ (fun item other => Alike causes results (f item) (g other)) items others) :
    Alike causes (List.Forall₂ results) (items.mapM f) (others.mapM g) := by
  induction each with
  | nil => exact .ok .nil
  | cons first rest ih =>
    rw [List.mapM_cons, List.mapM_cons]
    refine first.bind fun value result _ _ both => ih.bind fun values outcomes _ _ all => ?_
    exact .ok (.cons both all)

/-- Computations that are alike step by step are alike. -/
theorem comp {related' : β → γ → Prop} {first : Except ε α} {second : Except ε β}
    {third : Except ε γ} (like : Alike causes related first second)
    (next : Alike anyCause related' second third) :
    Alike anyCause (fun value other => ∃ middle, related value middle ∧ related' middle other)
      first third := by
  cases like with
  | error both =>
    cases next with
    | error => exact .error trivial
  | ok values =>
    cases next with
    | ok values' => exact .ok ⟨_, values, values'⟩

end Alike

/-- Traversals that agree on corresponding elements are equal. -/
theorem mapM_eq_of_forall₂ {f : α → Except ε γ} {g : β → Except ε γ} {items : List α}
    {others : List β} (each : List.Forall₂ (fun item other => f item = g other) items others) :
    items.mapM f = others.mapM g := by
  have like := Alike.mapM (each.imp fun _ _ same => Alike.of_eq same)
  rw [List.forall₂_eq_eq_eq] at like
  exact like.eq

/-- A traversal in another order fails or succeeds alike, with the results in the other order. -/
theorem alike_mapM_of_perm {f : α → Except ε β} {items others : List α}
    (order : items.Perm others) :
    Alike anyCause List.Perm (items.mapM f) (others.mapM f) := by
  -- The relation between the traversals is symmetric, so one direction is enough.
  have moved : ∀ {first second : List α}, first.Perm second →
      ∀ results, first.mapM f = .ok results →
        ∃ moved, second.mapM f = .ok moved ∧ results.Perm moved := by
    intro first second order results succeeds
    obtain ⟨moved, each, order'⟩ :=
      List.perm_comp_forall₂ order.symm (mapM_eq_ok.mp succeeds)
    exact ⟨moved, mapM_eq_ok.mpr each, order'.symm⟩
  refine .of_ok_iff (moved order) fun results succeeds => ?_
  obtain ⟨moved, each, -⟩ := moved order.symm results succeeds
  exact ⟨moved, each⟩

/-! ### Outcomes that are open -/

/-- The second computation ends as the first one does, unless that one fails for a cause that leaves
it open how it would end. -/
inductive Settles (leavesOpen : ε → Prop) : Except ε α → Except ε α → Prop
  | unsettled {cause : ε} {second : Except ε α} (isOpen : leavesOpen cause) :
      Settles leavesOpen (.error cause) second
  | same (outcome : Except ε α) : Settles leavesOpen outcome outcome

namespace Settles

variable {leavesOpen : ε → Prop} {first second : Except ε α}

/-- Where the first computation fails for no cause that leaves anything open, both end alike. -/
theorem eq (settles : Settles leavesOpen first second)
    (closed : ∀ cause, leavesOpen cause → first ≠ .error cause) : second = first := by
  cases settles with
  | unsettled isOpen => exact absurd rfl (closed _ isOpen)
  | same => rfl

/-- A success leaves nothing open. -/
theorem ok (settles : Settles leavesOpen first second) {value : α} (succeeds : first = .ok value) :
    second = .ok value := by
  rw [settles.eq fun cause _ => succeeds ▸ ok_ne_error, succeeds]

/-- A sequence ends as another one does if the first step does, and what follows it. -/
theorem bind {next other : α → Except ε β} (settles : Settles leavesOpen first second)
    (follow : ∀ value, first = .ok value → Settles leavesOpen (next value) (other value)) :
    Settles leavesOpen (first >>= next) (second >>= other) := by
  cases settles with
  | unsettled isOpen => exact .unsettled isOpen
  | same =>
    cases first with
    | error cause => exact .same _
    | ok value => exact follow value rfl

/-- A traversal ends as another one does if it does so on each element. -/
theorem mapM {f g : α → Except ε β} {items : List α}
    (each : ∀ item ∈ items, Settles leavesOpen (f item) (g item)) :
    Settles leavesOpen (items.mapM f) (items.mapM g) := by
  induction items with
  | nil => exact .same _
  | cons item rest ih =>
    rw [List.forall_mem_cons] at each
    rw [List.mapM_cons, List.mapM_cons]
    exact each.1.bind fun _ _ => (ih each.2).bind fun _ _ => .same _

end Settles

end SelectionTypes.Outcome
