import Mathlib.Data.List.Forall2
import Mathlib.Data.List.Nodup
import Mathlib.Data.List.Perm.Basic

/-!
# `SelectionTypes.Proofs.Support.Lists`: lists without repetitions

Types and response keys are kept in order of first occurrence, through `List.eraseDups`. Such a
list has no repetitions, and it is determined by its members up to order. Further lemmas are about
lists that correspond element by element, and about lists around a separator.
-/

set_option autoImplicit false

namespace SelectionTypes.Lists

variable {α : Type} [BEq α] [LawfulBEq α]

/-- No element is left twice. Induction on the length, since the rest is filtered first. -/
theorem nodup_eraseDups (items : List α) : items.eraseDups.Nodup := by
  induction length : items.length using Nat.strongRecOn generalizing items with
  | _ n ih =>
    cases items with
    | nil => exact List.nodup_nil
    | cons item rest =>
      have shorter := List.length_filter_le (fun other => !other == item) rest
      rw [List.length_cons] at length
      rw [List.eraseDups_cons, List.nodup_cons]
      refine ⟨fun again => ?_, ih _ (by omega) _ rfl⟩
      simpa using (List.mem_filter.mp (List.mem_eraseDups.mp again)).2

/-- Lists with the same members have the same distinct elements, up to order. -/
theorem eraseDups_perm {first second : List α} (same : ∀ item, item ∈ first ↔ item ∈ second) :
    first.eraseDups.Perm second.eraseDups :=
  (List.perm_ext_iff_of_nodup (nodup_eraseDups first) (nodup_eraseDups second)).mpr fun item => by
    rw [List.mem_eraseDups, List.mem_eraseDups, same]

/-- Filtering a list without repetitions for one of its elements leaves that element. -/
theorem filter_eq_singleton {items : List α} (distinct : items.Nodup) {item : α}
    (inside : item ∈ items) : items.filter (· == item) = [item] := by
  rw [List.filter_beq, List.count_eq_one_of_mem distinct inside]
  rfl

/-- In lists that correspond element by element, each element of the second one corresponds to one
of the first. -/
theorem exists_of_mem_right {α β : Type} {related : α → β → Prop} {items : List α} {others : List β}
    (each : List.Forall₂ related items others) {other : β} (inside : other ∈ others) :
    ∃ item ∈ items, related item other := by
  induction each with
  | nil => cases inside
  | cons first rest ih =>
    rcases List.mem_cons.mp inside with rfl | inside
    · exact ⟨_, List.mem_cons_self, first⟩
    · obtain ⟨item, listed, both⟩ := ih inside
      exact ⟨item, List.mem_cons_of_mem _ listed, both⟩

/-- In lists that correspond element by element, each element of the first one corresponds to one
of the second. -/
theorem exists_of_mem_left {α β : Type} {related : α → β → Prop} {items : List α} {others : List β}
    (each : List.Forall₂ related items others) {item : α} (inside : item ∈ items) :
    ∃ other ∈ others, related item other :=
  exists_of_mem_right each.flip inside

/-- If each element has something that corresponds to it, there is a list of these. -/
theorem exists_forall₂ {α β : Type} {related : α → β → Prop} {items : List α}
    (each : ∀ item ∈ items, ∃ other, related item other) :
    ∃ others, List.Forall₂ related items others := by
  induction items with
  | nil => exact ⟨[], .nil⟩
  | cons item rest ih =>
    rw [List.forall_mem_cons] at each
    obtain ⟨other, own⟩ := each.1
    obtain ⟨others, behind⟩ := ih each.2
    exact ⟨other :: others, .cons own behind⟩

/-- If what corresponds to an element in one list decides what corresponds to it in another, the
first list decides the other one. -/
theorem map_eq_of_forall₂ {α β γ : Type} {first : α → β → Prop} {second : α → γ → Prop}
    {part : γ → β} {items : List α} {results : List β} {others : List γ}
    (each : ∀ item ∈ items, ∀ result other, first item result → second item other →
      part other = result)
    (all : List.Forall₂ first items results) (all' : List.Forall₂ second items others) :
    others.map part = results := by
  induction all generalizing others with
  | nil =>
    cases all'
    rfl
  | cons own _ ih =>
    rw [List.forall_mem_cons] at each
    cases all' with
    | cons own' behind => rw [List.map_cons, each.1 _ _ own own', ih each.2 behind]

/-- What is made of some elements corresponds to them, in order. -/
theorem forall₂_filterMap {α β : Type} {related : α → β → Prop} {p : α → Bool} {f : α → Option β}
    {items : List α} (made : ∀ item ∈ items, p item = true →
      ∃ other, f item = some other ∧ related item other)
    (none : ∀ item ∈ items, p item = false → f item = none) :
    List.Forall₂ related (items.filter p) (items.filterMap f) := by
  induction items with
  | nil => exact .nil
  | cons item rest ih =>
    rw [List.forall_mem_cons] at made none
    have behind := ih made.2 none.2
    -- An element that is made of is kept on both sides, any other is left out on both.
    cases isMade : p item with
    | true =>
      obtain ⟨other, own, both⟩ := made.1 isMade
      rw [List.filter_cons_of_pos isMade, List.filterMap_cons_some own]
      exact .cons both behind
    | false =>
      rw [List.filter_cons_of_neg (by simp [isMade]), List.filterMap_cons_none (none.1 isMade)]
      exact behind

/-- In lists with the same members, of which no two have one key, the same member is found for a
key. -/
theorem find?_eq_of_mem_iff {α κ : Type} [BEq κ] [LawfulBEq κ] {key : α → κ} {items others : List α}
    (same : ∀ item, item ∈ items ↔ item ∈ others)
    (distinct : ∀ item ∈ items, ∀ other ∈ items, key item = key other → item = other) (sought : κ) :
    items.find? (fun item => key item == sought) = others.find? fun item => key item == sought := by
  cases found : items.find? fun item => key item == sought with
  | none =>
    rw [eq_comm, List.find?_eq_none]
    exact fun item inside => List.find?_eq_none.mp found item ((same item).mpr inside)
  | some item =>
    have inside := List.mem_of_find?_eq_some found
    have own : key item = sought := by simpa using List.find?_some found
    have isSome : (others.find? fun item => key item == sought).isSome :=
      List.find?_isSome.mpr ⟨item, (same item).mp inside, by simpa using own⟩
    obtain ⟨other, isOther⟩ := Option.isSome_iff_exists.mp isSome
    have isOwn : key other = sought := by simpa using List.find?_some isOther
    -- Both members have the key, so they are one.
    have member := (same other).mpr (List.mem_of_find?_eq_some isOther)
    rw [isOther, distinct item inside other member (own.trans isOwn.symm)]

/-- Lists around one separator are equal if their parts are, or if one of the first parts ends at a
separator within the other. -/
theorem append_cons_eq_iff {α : Type} {separator : α} {before after before' after' : List α} :
    before ++ separator :: after = before' ++ separator :: after' ↔
      (before = before' ∧ after = after') ∨
      (∃ between, before' = before ++ separator :: between ∧
        after = between ++ separator :: after') ∨
      ∃ between, before = before' ++ separator :: between ∧
        after' = between ++ separator :: after := by
  -- One of the first parts begins with the other. What is left of it is empty or begins with the
  -- separator.
  rw [List.append_eq_append_iff]
  constructor
  · rintro (⟨rest, rfl, same⟩ | ⟨rest, rfl, same⟩)
    · rcases List.cons_eq_append_iff.mp same with ⟨rfl, same⟩ | ⟨between, rfl, rfl⟩
      · exact .inl ⟨(List.append_nil _).symm, (List.cons.inj same).2⟩
      · exact .inr (.inl ⟨between, rfl, rfl⟩)
    · rcases List.cons_eq_append_iff.mp same with ⟨rfl, same⟩ | ⟨between, rfl, rfl⟩
      · exact .inl ⟨List.append_nil _, (List.cons.inj same).2.symm⟩
      · exact .inr (.inr ⟨between, rfl, rfl⟩)
  · rintro (⟨rfl, rfl⟩ | ⟨between, rfl, rfl⟩ | ⟨between, rfl, rfl⟩)
    · exact .inl ⟨[], by simp⟩
    · exact .inl ⟨separator :: between, rfl, rfl⟩
    · exact .inr ⟨separator :: between, rfl, rfl⟩

end SelectionTypes.Lists
