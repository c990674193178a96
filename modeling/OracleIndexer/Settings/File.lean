import OracleIndexer.Settings.Validation
import OracleIndexer.Text.Line
import OracleIndexer.Yaml.Document
set_option autoImplicit false

/-!
# Configuration files

Settings as they stand in a file.  A file without content leaves every setting at its default, and
the environment may name another network than the file does.
-/

namespace OracleIndexer.Settings

open Yaml (Document Value)

/-- A document with the network that the environment names, unless that is empty. -/
def withNetwork (network : Option String) (document : Document) : Outcome Document :=
  match network with
  | some name =>
    if name.isEmpty then .ok document else document.withEntry (.text "network") (.text name)
  | none => .ok document

/-- Reads the text of a configuration file. -/
def ofFile (file text : String) (network : Option String) : Outcome Settings := do
  let document ← Document.ofText (Text.withLineFeeds text.toList)
  let document ← withNetwork network (if document.isGiven then document else .empty)
  match read (document.value depth) with
  | .ok settings => return settings
  | .error defects => .error (.invalidConfiguration file defects)

end OracleIndexer.Settings
