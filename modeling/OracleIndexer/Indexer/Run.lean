import OracleIndexer.Indexer.Transform
import OracleIndexer.Settings.Basic
set_option autoImplicit false

/-!
# Running an indexer

A batch is transformed as the settings say: with the contract of the indexer's role on the network,
without which nothing is read, and leaving failing events out if that is allowed.
-/

namespace OracleIndexer

/-- What outputs need of the settings. -/
def Settings.context (settings : Settings) : Record.Context where
  network := settings.network
  format := ⟨some settings.sizeTable, some settings.countRadix⟩

/-- The outputs of a batch under settings. -/
def Indexer.runBatch (indexer : Indexer) (batch : Json) (settings : Settings) :
    Noted (List Output) := do
  let contract ← Noted.plain (settings.contract indexer.role)
  indexer.transform batch settings.context (some (.text contract)) settings.skipFailed

end OracleIndexer
