import SelectionTypes.Selection.Inline
import SelectionTypes.Selection.Merge

/-!
# `SelectionTypes.Selection.Optimized`: operations that stand alone

An optimized operation spreads no fragment and selects no response key twice. An optimized document
holds its optimized operations alone.
-/

set_option autoImplicit false

namespace SelectionTypes

namespace Operation

/-- The operation without spreads and with merged fields. -/
def optimize (table : FragmentTable) (operation : Operation) :
    Except GenerationError Operation := do
  let selections ← Selection.inline table operation.selections
  return { operation with selections := Selection.merge selections }

end Operation

namespace Document

/-- The document of the optimized operations. -/
def optimize (table : FragmentTable) (document : Document) : Except GenerationError Document := do
  let operations ← document.operations.mapM (Operation.optimize table)
  return ⟨operations.map .operation⟩

/-- The optimized documents, where the fragments of all documents may be spread and come before
external ones. -/
def optimizeAll (documents : List Document) (external : List LoadedFragment) :
    Except GenerationError (List Document) :=
  documents.mapM (optimize (FragmentTable.ofDocuments external documents))

end Document

end SelectionTypes
