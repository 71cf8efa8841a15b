import SelectionTypes.Document.Directives
import SelectionTypes.Selection.Error

/-!
# `SelectionTypes.Selection.FragmentTable`: the fragments that selections may spread

A table holds one fragment for each name, in order of first definition. When selections are
expanded, a fragment that has been entered leaves the table, so expansion ends:
`FragmentTable.length_without_lt` says that the table gets shorter.
-/

set_option autoImplicit false

namespace SelectionTypes

/-- A fragment that may be spread. -/
structure LoadedFragment where
  fragment : Fragment
  /-- Its types are generated elsewhere. -/
  isExternal : Bool := false
  /-- The module that declares its types. -/
  importFrom : Option String := none

namespace LoadedFragment

/-- The name of the fragment. -/
def name (loaded : LoadedFragment) : String :=
  loaded.fragment.name

/-- The fragments of a document. -/
def ofDocument (document : Document) (isExternal : Bool := false)
    (importFrom : Option String := none) : List LoadedFragment :=
  document.fragments.map fun fragment => ⟨fragment, isExternal, importFrom⟩

end LoadedFragment

/-- The fragments that selections may spread, with distinct names. -/
abbrev FragmentTable := List LoadedFragment

namespace FragmentTable

/-- The fragment of a name. -/
def get? (table : FragmentTable) (name : String) : Option LoadedFragment :=
  table.find? fun loaded => loaded.name == name

/-- Sets the fragment of its name. A new name goes to the end, and a name that is there keeps its
position. -/
def insert (table : FragmentTable) (loaded : LoadedFragment) : FragmentTable :=
  match table with
  | [] => [loaded]
  | first :: rest =>
    if first.name == loaded.name then loaded :: rest else first :: insert rest loaded

/-- The table of fragments where a later one replaces an earlier one of its name. -/
def ofList (fragments : List LoadedFragment) : FragmentTable :=
  fragments.foldl insert []

/-- The table of external fragments and of the fragments of documents, which replace external ones
of the same name. -/
def ofDocuments (external : List LoadedFragment) (documents : List Document) : FragmentTable :=
  ofList (external ++ documents.flatMap fun document => LoadedFragment.ofDocument document)

/-- The table without the fragment of a name. -/
def without (table : FragmentTable) (name : String) : FragmentTable :=
  table.filter fun loaded => loaded.name != name

/-- Entering a fragment leaves fewer fragments to enter. -/
theorem length_without_lt {table : FragmentTable} {name : String} {loaded : LoadedFragment}
    (found : table.get? name = some loaded) : (table.without name).length < table.length := by
  unfold get? at found
  have key := List.find?_some found
  have inside : loaded ∈ table := List.mem_of_find?_eq_some found
  refine List.length_filter_lt_length_iff_exists.2 ⟨loaded, inside, ?_⟩
  simpa [bne] using key

/-- The fragment that a spread refers to, where `entered` holds the fragments around the spread
that are no longer in the table. -/
def resolve (table : FragmentTable) (entered : List String) (name : String) :
    Except GenerationError LoadedFragment :=
  if entered.contains name then .error (.fragmentCycle name)
  else
    match table.get? name with
    | some loaded => .ok loaded
    | none => .error (.unknownFragment name)

/-- Entering the fragment that a spread resolves to leaves fewer fragments to enter. -/
theorem length_without_lt_of_resolve {table : FragmentTable} {entered : List String}
    {name : String} {loaded : LoadedFragment} (found : table.resolve entered name = .ok loaded) :
    (table.without name).length < table.length := by
  unfold resolve at found
  split at found
  · cases found
  · split at found
    · next h => exact length_without_lt h
    · cases found

end FragmentTable

end SelectionTypes
