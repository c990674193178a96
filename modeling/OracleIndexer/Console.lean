import OracleIndexer.Json.Access
import OracleIndexer.Json.Writer
import OracleIndexer.Record.Output
set_option autoImplicit false

/-!
# Console

A console shows documents, each on a line of its own, and counts them.  One that cannot be written
stops it; what it showed before stays.
-/

namespace OracleIndexer

/-- What a console shows, and the number of documents in it. -/
structure Console where
  text : String
  written : Nat
  deriving DecidableEq, Repr, Inhabited

namespace Console

/-- A console that shows nothing. -/
def empty : Console := ⟨"", 0⟩

/-- Shows one more document, in which so many arrays and objects may lie in one another. -/
def put (levels : Nat) (console : Console) (document : Json) : Outcome Console :=
  (document.dump levels).map fun line => ⟨console.text ++ line ++ "\n", console.written + 1⟩

/-- Shows documents in order up to the first that cannot be written: what the console shows then,
and what stopped it. -/
def showAll (levels : Nat) (console : Console) : List Json → Console × Option Fault
  | [] => (console, none)
  | document :: rest =>
    match console.put levels document with
    | .ok next => next.showAll levels rest
    | .error fault => (console, some fault)

/-- Shows the parts of a document that is gone through one by one. -/
def showParts (levels : Nat) (console : Console) (document : Json) : Console × Option Fault :=
  match document.items with
  | .ok parts => console.showAll levels parts
  | .error fault => (console, some fault)

/-- Shows the outputs of a batch. -/
def take (levels : Nat) (console : Console) (outputs : List Output) : Console × Option Fault :=
  console.showAll levels (outputs.map Output.document)

end Console

end OracleIndexer
