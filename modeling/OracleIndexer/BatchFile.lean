import OracleIndexer.Fault
import OracleIndexer.Json.Reader
import OracleIndexer.Text.Line
set_option autoImplicit false

/-!
# Batch files

A file of batches holds one document, which is a batch or an array of batches, or else one document
on each line that is not blank.  The lines are tried only where the whole is no document; a document
that cannot be taken in is refused at once.
-/

namespace OracleIndexer.BatchFile

/-- The documents on lines. -/
def ofLines (levels : Nat) : List (List Char) → Outcome (List Json)
  | [] => .ok []
  | line :: rest => do
    let document ← Json.read levels line
    let documents ← ofLines levels rest
    return document :: documents

/-- The batches of a whole document. -/
def ofDocument : Json → List Json
  | .array documents => documents
  | document => [document]

/-- Reads the batches of a file, in each of which so many arrays and objects may lie in one
another. -/
def read (levels : Nat) (text : List Char) : Outcome (List Json) :=
  let text := Text.withLineFeeds text
  match Json.read levels text with
  | .ok document => .ok (ofDocument document)
  | .error .notJson => ofLines levels ((Text.lines text).filter Text.hasInk)
  | .error fault => .error fault

/-- Reads the batches of a file given as a string. -/
def ofString (levels : Nat) (text : String) : Outcome (List Json) := read levels text.toList

end OracleIndexer.BatchFile
