import SelectionTypes.Proofs.Support.Outcome
import SelectionTypes.Proofs.Schema.WellFormed

/-!
# `SelectionTypes.Proofs.Selection.Distribution`: what one reading of selections gives

`Selection.distributeWithin` reads selections once for a list of types. The lemmas say what each
kind of selection adds, so that later modules need not unfold it:

* `distributeWithin_*_eq_ok`: when the reading of each kind of selection succeeds, and with what.
* `distributeWithin_induction`: induction along a reading that succeeds.
* `distributeWithin_filter`: a reading for fewer types is the reading for all of them, restricted.
* `types_subset`: a field is selected only on types that the selections are read for.

Inside a fragment the table lacks the fragments that have been entered.
`FragmentTable.AgreesOutside` says that it is otherwise the table of the whole run. A table made of
documents has their fragments, and the external ones that they do not hide (`get?_ofDocuments`).
-/

set_option autoImplicit false

namespace SelectionTypes

open Outcome

namespace FragmentTable

variable {table original : FragmentTable} {entered : List String}

/-- The fragments that have not been entered are the same in both tables. -/
def AgreesOutside (entered : List String) (table original : FragmentTable) : Prop :=
  ∀ name, name ∉ entered → table.get? name = original.get? name

/-- Before anything is entered, a table agrees with itself. -/
theorem AgreesOutside.refl (table : FragmentTable) : table.AgreesOutside [] table :=
  fun _ _ => rfl

/-- Leaving a fragment out does not touch the others. -/
theorem get?_without {name other : String} (different : other ≠ name) :
    (table.without name).get? other = table.get? other := by
  unfold get? without
  rw [List.find?_filter]
  congr 1
  funext loaded
  by_cases same : loaded.name = other
  · simp [same, different]
  · simp [same]

/-- Entering a fragment takes it out of the table, and the tables agree outside of what has been
entered then. -/
theorem AgreesOutside.without (agrees : AgreesOutside entered table original) (name : String) :
    AgreesOutside (name :: entered) (table.without name) original := by
  intro other outside
  rw [List.mem_cons, not_or] at outside
  rw [get?_without outside.1, agrees other outside.2]

/-- A spread refers to the fragment of its name, if that has not been entered. -/
theorem resolve_eq_ok {name : String} {loaded : LoadedFragment} :
    table.resolve entered name = .ok loaded ↔ name ∉ entered ∧ table.get? name = some loaded := by
  unfold resolve
  by_cases inside : name ∈ entered
  · simp [inside]
  · cases found : table.get? name <;> simp [inside]

/-- A spread refers to no fragment if the one of its name has been entered or is unknown. -/
theorem resolve_eq_error {name : String} {problem : GenerationError} :
    table.resolve entered name = .error problem ↔
      (name ∈ entered ∧ problem = .fragmentCycle name) ∨
        (name ∉ entered ∧ table.get? name = none ∧ problem = .unknownFragment name) := by
  unfold resolve
  by_cases inside : name ∈ entered
  · simp [inside, eq_comm]
  · cases found : table.get? name <;> simp [inside, eq_comm]

/-- Tables that agree outside the entered fragments resolve spreads in the same way. -/
theorem AgreesOutside.resolve_eq (agrees : AgreesOutside entered table original) (name : String) :
    table.resolve entered name = original.resolve entered name := by
  unfold resolve
  by_cases inside : name ∈ entered
  · simp [inside]
  · rw [agrees name inside]

/-- A fragment that is looked up has the name it is looked up by. -/
theorem name_of_get? {name : String} {loaded : LoadedFragment}
    (found : table.get? name = some loaded) : loaded.name = name := by
  simpa using List.find?_some found

/-! #### Tables of documents -/

/-- A table with one more fragment has that one and those from before. -/
theorem mem_of_mem_insert {loaded other : LoadedFragment} (inside : other ∈ insert table loaded) :
    other = loaded ∨ other ∈ table := by
  fun_induction insert table loaded with
  | case1 => exact .inl (List.mem_singleton.mp inside)
  | case2 first rest same => exact (List.mem_cons.mp inside).imp_right (List.mem_cons_of_mem _)
  | case3 first rest different ih =>
    rcases List.mem_cons.mp inside with rfl | inside
    · exact .inr List.mem_cons_self
    · exact (ih inside).imp_right (List.mem_cons_of_mem _)

/-- A table with more fragments has these and those from before. -/
theorem mem_of_mem_foldl_insert {fragments : List LoadedFragment} {loaded : LoadedFragment}
    (inside : loaded ∈ fragments.foldl insert table) : loaded ∈ fragments ∨ loaded ∈ table := by
  induction fragments generalizing table with
  | nil => exact .inr inside
  | cons first rest ih =>
    rcases ih inside with inside | inside
    · exact .inl (List.mem_cons_of_mem _ inside)
    · rcases mem_of_mem_insert inside with rfl | inside
      · exact .inl List.mem_cons_self
      · exact .inr inside

/-- A table has the fragments that it is made of. -/
theorem mem_of_mem_ofDocuments {external : List LoadedFragment} {documents : List Document}
    {loaded : LoadedFragment} (inside : loaded ∈ ofDocuments external documents) :
    loaded ∈ external ∨
      ∃ document ∈ documents, loaded ∈ LoadedFragment.ofDocument document := by
  rcases mem_of_mem_foldl_insert inside with inside | inside
  · exact (List.mem_append.mp inside).imp_right List.mem_flatMap.mp
  · cases inside

/-- A fragment that is put into a table takes the place of one of its name. -/
theorem get?_insert (loaded : LoadedFragment) (name : String) :
    (insert table loaded).get? name =
      if loaded.name = name then some loaded else table.get? name := by
  fun_induction insert table loaded with
  | case1 => simp [get?]
  | case2 first rest same =>
    have sameName : first.name = loaded.name := eq_of_beq same
    by_cases own : loaded.name = name
    · simp [get?, own]
    · simp [get?, own, sameName]
  | case3 first rest different ih =>
    have otherName : first.name ≠ loaded.name := by simpa using different
    -- The first fragment stays, and it is found before the inserted one if it has the name.
    unfold get? at ih ⊢
    rw [List.find?_cons, List.find?_cons, ih]
    by_cases own : loaded.name = name
    · have passed : (first.name == name) = false := by rw [← own]; simpa using otherName
      simp [own, passed]
    · simp [own]

/-- Where fragments are put into a table one by one, the last one of a name is found. -/
theorem get?_foldl_insert (fragments : List LoadedFragment) (name : String) :
    (fragments.foldl insert table).get? name =
      (get? fragments.reverse name).or (table.get? name) := by
  induction fragments generalizing table with
  | nil => simp [get?]
  | cons first rest ih =>
    rw [List.foldl_cons, ih, get?_insert, List.reverse_cons]
    unfold get?
    rw [List.find?_append, Option.or_assoc]
    by_cases own : first.name = name <;> simp [own]

/-- A fragment of the documents hides the external ones of its name. -/
theorem get?_ofDocuments {external : List LoadedFragment} {documents : List Document}
    {document : Document} (given : document ∈ documents) {fragment : Fragment}
    (listed : fragment ∈ document.fragments) {loaded : LoadedFragment}
    (found : (ofDocuments external documents).get? fragment.name = some loaded) :
    ∃ document ∈ documents, loaded ∈ LoadedFragment.ofDocument document := by
  unfold ofDocuments ofList at found
  -- The documents are put in last, so only their fragments count where they have one of the name.
  rw [List.foldl_append, get?_foldl_insert] at found
  have isLocal : (⟨fragment, false, none⟩ : LoadedFragment) ∈
      documents.flatMap fun document => LoadedFragment.ofDocument document :=
    List.mem_flatMap_of_mem given (List.mem_map_of_mem listed)
  cases last : get? (documents.flatMap fun document => LoadedFragment.ofDocument document).reverse
      fragment.name with
  | none =>
    have absent := List.find?_eq_none.mp last _ (List.mem_reverse.mpr isLocal)
    exact absurd (beq_self_eq_true _) absent
  | some other =>
    rw [last, Option.some_or] at found
    cases found
    exact List.mem_flatMap.mp (List.mem_reverse.mp (List.mem_of_find?_eq_some last))

end FragmentTable

namespace Selection

variable {schema : Schema} {table original : FragmentTable} {entered applicable : List String}
variable {selections : List Selection} {distributed : List (SelectedField × List String)}

/-! ### One kind of selection after the other -/

/-- Nothing is read from no selections. -/
@[simp]
theorem distributeWithin_nil : distributeWithin schema table entered applicable [] = .ok [] := by
  rw [distributeWithin]

/-- A spread stands for the selections of its fragment, read without that fragment. -/
theorem distributeWithin_spread (name : String) (directives : List Directive)
    (rest : List Selection) :
    distributeWithin schema table entered applicable (.spread name directives :: rest) = do
      let loaded ← table.resolve entered name
      let narrowed ← schema.narrow applicable loaded.fragment.onType
      let inner ← distributeWithin schema (table.without name) (name :: entered) narrowed
        loaded.fragment.selections
      let rest ← distributeWithin schema table entered applicable rest
      return inner ++ rest := by
  rw [distributeWithin]
  split <;> simp only [*] <;> rfl

/-- A field is read for all types that apply, in front of the other fields. -/
theorem distributeWithin_field_eq_ok {head : FieldHead} {inner : List Selection} :
    distributeWithin schema table entered applicable (.field head inner :: selections)
        = .ok distributed ↔
      ∃ others, distributeWithin schema table entered applicable selections = .ok others ∧
        distributed = (⟨head, inner⟩, applicable) :: others := by
  rw [distributeWithin, bind_eq_ok]
  simp [pure, Except.pure, eq_comm]

/-- An inline fragment without a condition is read for the same types. -/
theorem distributeWithin_plain_eq_ok {directives : List Directive} {inner : List Selection} :
    distributeWithin schema table entered applicable (.inlined none directives inner :: selections)
        = .ok distributed ↔
      ∃ below others, distributeWithin schema table entered applicable inner = .ok below ∧
        distributeWithin schema table entered applicable selections = .ok others ∧
        distributed = below ++ others := by
  rw [distributeWithin]
  exact both_eq_ok

/-- One with a condition is read for the types that meet it. The condition tells this of each of
them. -/
theorem distributeWithin_conditioned_eq_ok {condition : String} {directives : List Directive}
    {inner : List Selection} :
    distributeWithin schema table entered applicable
        (.inlined (some condition) directives inner :: selections) = .ok distributed ↔
      (∀ concrete ∈ applicable, schema.tells condition concrete) ∧
      ∃ below others, distributeWithin schema table entered
          (applicable.filter (schema.meets condition)) inner = .ok below ∧
        distributeWithin schema table entered applicable selections = .ok others ∧
        distributed = below ++ others := by
  rw [distributeWithin, bind_eq_ok]
  simp only [Schema.narrow_eq_ok, bind_eq_ok, pure, Except.pure, Except.ok.injEq]
  constructor
  · rintro ⟨narrowed, ⟨told, rfl⟩, below, first, others, rest, rfl⟩
    exact ⟨told, below, others, first, rest, rfl⟩
  · rintro ⟨told, below, others, first, rest, rfl⟩
    exact ⟨_, ⟨told, rfl⟩, below, first, others, rest, rfl⟩

/-- A spread that refers to no fragment cannot be read. -/
theorem not_reads_of_unresolved {name : String} {directives : List Directive}
    {problem : GenerationError} (unresolved : table.resolve entered name = .error problem) :
    distributeWithin schema table entered applicable (.spread name directives :: selections)
      ≠ .ok distributed := by
  rw [distributeWithin_spread, unresolved]
  intro reads
  cases reads

/-- A spread is read as an inline fragment on the type of its fragment, without that fragment. -/
theorem distributeWithin_resolved_eq_ok {name : String} {directives : List Directive}
    {loaded : LoadedFragment} (resolved : table.resolve entered name = .ok loaded) :
    distributeWithin schema table entered applicable (.spread name directives :: selections)
        = .ok distributed ↔
      (∀ concrete ∈ applicable, schema.tells loaded.fragment.onType concrete) ∧
      ∃ below others, distributeWithin schema (table.without name) (name :: entered)
          (applicable.filter (schema.meets loaded.fragment.onType))
          loaded.fragment.selections = .ok below ∧
        distributeWithin schema table entered applicable selections = .ok others ∧
        distributed = below ++ others := by
  rw [distributeWithin_spread, resolved, bind_eq_ok]
  simp only [Schema.narrow_eq_ok, bind_eq_ok, pure, Except.pure, Except.ok.injEq]
  constructor
  · rintro ⟨_, rfl, narrowed, ⟨told, rfl⟩, below, first, others, rest, rfl⟩
    exact ⟨told, below, others, first, rest, rfl⟩
  · rintro ⟨told, below, others, first, rest, rfl⟩
    exact ⟨loaded, rfl, _, ⟨told, rfl⟩, below, first, others, rest, rfl⟩

/-- Induction along a reading that succeeds. Each spread in it refers to a fragment that has not
been entered, and each condition can be told for the types that are read for. -/
theorem distributeWithin_induction
    {motive : ∀ table entered applicable selections distributed,
      distributeWithin schema table entered applicable selections = .ok distributed → Prop}
    (nil : ∀ {table entered applicable},
      motive table entered applicable [] [] distributeWithin_nil)
    (field : ∀ {table entered applicable head inner rest others}
      (after : distributeWithin schema table entered applicable rest = .ok others),
      motive table entered applicable rest others after →
      motive table entered applicable (.field head inner :: rest)
        ((⟨head, inner⟩, applicable) :: others)
        (distributeWithin_field_eq_ok.mpr ⟨others, after, rfl⟩))
    (plain : ∀ {table entered applicable directives inner rest below others}
      (inside : distributeWithin schema table entered applicable inner = .ok below)
      (after : distributeWithin schema table entered applicable rest = .ok others),
      motive table entered applicable inner below inside →
      motive table entered applicable rest others after →
      motive table entered applicable (.inlined none directives inner :: rest) (below ++ others)
        (distributeWithin_plain_eq_ok.mpr ⟨below, others, inside, after, rfl⟩))
    (conditioned : ∀ {table entered applicable condition directives inner rest below others}
      (told : ∀ concrete ∈ applicable, schema.tells condition concrete)
      (inside : distributeWithin schema table entered (applicable.filter (schema.meets condition))
        inner = .ok below)
      (after : distributeWithin schema table entered applicable rest = .ok others),
      motive table entered (applicable.filter (schema.meets condition)) inner below inside →
      motive table entered applicable rest others after →
      motive table entered applicable (.inlined (some condition) directives inner :: rest)
        (below ++ others)
        (distributeWithin_conditioned_eq_ok.mpr ⟨told, below, others, inside, after, rfl⟩))
    (spread : ∀ {table entered applicable name directives rest loaded below others}
      (new : name ∉ entered) (found : table.get? name = some loaded)
      (told : ∀ concrete ∈ applicable, schema.tells loaded.fragment.onType concrete)
      (inside : distributeWithin schema (table.without name) (name :: entered)
        (applicable.filter (schema.meets loaded.fragment.onType)) loaded.fragment.selections
        = .ok below)
      (after : distributeWithin schema table entered applicable rest = .ok others),
      motive (table.without name) (name :: entered)
        (applicable.filter (schema.meets loaded.fragment.onType)) loaded.fragment.selections below
        inside →
      motive table entered applicable rest others after →
      motive table entered applicable (.spread name directives :: rest) (below ++ others)
        ((distributeWithin_resolved_eq_ok (FragmentTable.resolve_eq_ok.mpr ⟨new, found⟩)).mpr
          ⟨told, below, others, inside, after, rfl⟩))
    {table : FragmentTable} {entered applicable : List String} {selections : List Selection}
    {result : List (SelectedField × List String)}
    (reads : distributeWithin schema table entered applicable selections = .ok result) :
    motive table entered applicable selections result reads := by
  induction table, entered, applicable, selections using distributeWithin.induct
    generalizing result with
  | case1 table entered applicable =>
    cases distributeWithin_nil.symm.trans reads
    exact nil
  | case2 table entered applicable head inner rest ih =>
    obtain ⟨others, after, rfl⟩ := distributeWithin_field_eq_ok.mp reads
    exact field after (ih after)
  | case3 table entered applicable directives inner rest ihInner ihRest =>
    obtain ⟨below, others, inside, after, rfl⟩ := distributeWithin_plain_eq_ok.mp reads
    exact plain inside after (ihInner inside) (ihRest after)
  | case4 table entered applicable condition directives inner rest ihInner ihRest =>
    obtain ⟨told, below, others, inside, after, rfl⟩ :=
      distributeWithin_conditioned_eq_ok.mp reads
    exact conditioned told inside after (ihInner _ inside) (ihRest after)
  -- A spread that does not resolve is not read, so the run that succeeds has none.
  | case5 table entered applicable name directives rest problem unresolved =>
    exact absurd reads (not_reads_of_unresolved unresolved)
  | case6 table entered applicable name directives rest loaded resolved ihInner ihRest =>
    obtain ⟨new, found⟩ := FragmentTable.resolve_eq_ok.mp resolved
    obtain ⟨told, below, others, inside, after, rfl⟩ :=
      (distributeWithin_resolved_eq_ok resolved).mp reads
    exact spread new found told inside after (ihInner _ inside) (ihRest after)

/-- A list is read part by part. -/
theorem distributeWithin_append (first second : List Selection) :
    distributeWithin schema table entered applicable (first ++ second) = do
      let before ← distributeWithin schema table entered applicable first
      let behind ← distributeWithin schema table entered applicable second
      return before ++ behind := by
  -- On the first list only, since what is inside of a selection is read as a whole.
  induction first with
  | nil =>
    rw [List.nil_append, distributeWithin_nil]
    exact (bind_pure _).symm
  | cons selection rest ih =>
    cases selection with
    | field head inner =>
      simp only [List.cons_append, distributeWithin, ih, bind_assoc, pure_bind]
    | spread name directives =>
      simp only [List.cons_append, distributeWithin_spread, ih, bind_assoc, pure_bind,
        List.append_assoc]
    | inlined condition directives inner =>
      cases condition with
      | none =>
        simp only [List.cons_append, distributeWithin, ih, bind_assoc, pure_bind,
          List.append_assoc]
      | some condition =>
        simp only [List.cons_append, distributeWithin, ih, bind_assoc, pure_bind,
          List.append_assoc]

/-! ### Fewer types -/

/-- A test of a condition on some types and then on fewer of them is one filter. -/
private theorem filter_filter_comm (p q : String → Bool) (names : List String) :
    (names.filter p).filter q = (names.filter q).filter p := by
  simp only [List.filter_filter, Bool.and_comm]

/-- A reading for fewer types gives the same fields, each with fewer types. -/
theorem distributeWithin_filter (keep : String → Bool)
    (reads : distributeWithin schema table entered applicable selections = .ok distributed) :
    distributeWithin schema table entered (applicable.filter keep) selections =
      .ok (distributed.map fun entry => (entry.1, entry.2.filter keep)) := by
  induction reads using distributeWithin_induction with
  | nil => exact distributeWithin_nil
  | field _ ih => exact distributeWithin_field_eq_ok.mpr ⟨_, ih, rfl⟩
  | plain _ _ ihInner ihRest =>
    exact distributeWithin_plain_eq_ok.mpr ⟨_, _, ihInner, ihRest, List.map_append⟩
  | conditioned told _ _ ihInner ihRest =>
    -- Types are told apart by the condition before and after the others are left out.
    refine distributeWithin_conditioned_eq_ok.mpr
      ⟨fun concrete kept => told concrete (List.mem_of_mem_filter kept), _, _, ?_, ihRest,
        List.map_append⟩
    rw [filter_filter_comm]
    exact ihInner
  | spread new found told _ _ ihInner ihRest =>
    refine (distributeWithin_resolved_eq_ok (FragmentTable.resolve_eq_ok.mpr ⟨new, found⟩)).mpr
      ⟨fun concrete kept => told concrete (List.mem_of_mem_filter kept), _, _, ?_, ihRest,
        List.map_append⟩
    rw [filter_filter_comm]
    exact ihInner

/-- No field is selected on a type that the selections are not read for. -/
theorem types_subset (reads : distributeWithin schema table entered applicable selections
    = .ok distributed) : ∀ entry ∈ distributed, entry.2 ⊆ applicable := by
  -- Restricting to the types that are read for changes nothing.
  have restricted := distributeWithin_filter (fun name => applicable.contains name) reads
  rw [List.filter_eq_self.mpr fun name inside => by simpa using inside, reads] at restricted
  intro entry inside name listed
  rw [Except.ok.injEq] at restricted
  obtain ⟨other, -, rfl⟩ := List.mem_map.mp (restricted ▸ inside)
  simpa using (List.mem_filter.mp listed).2

end Selection

end SelectionTypes
