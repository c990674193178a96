import OracleIndexer.Indexer.Registry
set_option autoImplicit false

/-!
# Transforming batches

A batch is read as a whole, then its events are mapped one after the other.  Events that the indexer
does not want are passed over.  An event that fails ends the work, unless failing events are to be
left out; then it is noted and leaves no output.
-/

namespace OracleIndexer.Indexer

/-- Whether an event is wanted; without a contract every event is. -/
def wantsItem (indexer : Indexer) (contract : Option Json) (item : Block.Item) : Outcome Bool :=
  match contract with
  | none => .ok true
  | some address => indexer.wants item.event address

/-- The outputs of an event that is wanted. -/
def mapItem (indexer : Indexer) (context : Record.Context) (skipFailed : Bool)
    (header : Block.Header) (item : Block.Item) : Noted (List Output) :=
  let notes := indexer.mapping.notes item context
  match indexer.mapping.outputs header item context with
  | .ok outputs => ⟨notes, .ok outputs⟩
  | .error fault =>
    if skipFailed && fault.isSkippable then
      ⟨notes ++ [.skipped indexer.name item header.number fault], .ok []⟩
    else ⟨notes, .error fault⟩

/-- The outputs of an event. -/
def transformItem (indexer : Indexer) (context : Record.Context) (contract : Option Json)
    (skipFailed : Bool) (header : Block.Header) (item : Block.Item) : Noted (List Output) :=
  match indexer.wantsItem contract item with
  | .error fault => ⟨[], .error fault⟩
  | .ok false => ⟨[], .ok []⟩
  | .ok true => indexer.mapItem context skipFailed header item

/-- The outputs of events in order. -/
def transformItems (indexer : Indexer) (context : Record.Context) (contract : Option Json)
    (skipFailed : Bool) (header : Block.Header) : List Block.Item → Noted (List Output)
  | [] => pure []
  | item :: rest => do
    let outputs ← indexer.transformItem context contract skipFailed header item
    let more ← indexer.transformItems context contract skipFailed header rest
    return outputs ++ more

/-- The outputs of a batch given as a document. -/
def transform (indexer : Indexer) (document : Json) (context : Record.Context)
    (contract : Option Json) (skipFailed : Bool) : Noted (List Output) := do
  let batch ← Noted.plain (Block.Batch.ofDocument document)
  indexer.transformItems context contract skipFailed batch.header batch.items

end OracleIndexer.Indexer
