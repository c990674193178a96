import OracleIndexer.Record.Output
set_option autoImplicit false

/-!
# Journal

What is noted while batches are worked on, and the result that the notes accompany.  A note has a
level and a channel; a threshold decides which notes are shown.
-/

namespace OracleIndexer

/-- How much a note matters. -/
inductive Level where
  | debug
  | warning
  deriving DecidableEq, Repr, Inhabited

/-- The rank of a level on the scale that thresholds are given on. -/
def Level.rank : Level → Int
  | .debug => 10
  | .warning => 30

/-- The name of a level. -/
def Level.name : Level → String
  | .debug => "DEBUG"
  | .warning => "WARNING"

/-- Something noted. -/
inductive Note where
  /-- the words of a dispatched message, before it is decoded -/
  | messageWords (transaction : Json) (words : List Json)
  /-- characters behind the last record of a message -/
  | ignoredTail (remark : String)
  /-- an event left out because of a fault -/
  | skipped (indexer : String) (item : Block.Item) (block : Int) (fault : Fault)
  /-- a batch worked off -/
  | consumed (indexer : String) (block : Int) (outputs : Nat)
  deriving Repr, Inhabited

namespace Note

/-- The level of a note. -/
def level : Note → Level
  | .skipped .. => .warning
  | _ => .debug

/-- The channel of a note. -/
def channel : Note → String
  | .messageWords .. => "etl.transform"
  | .ignoredTail _ => "codec.batch"
  | .skipped .. => "etl.indexers"
  | .consumed .. => "streaming.consumers"

/-- The wording of a note, if the numbers in it can be written. -/
def message? : Note → Option String
  | .messageWords transaction words =>
    if transaction.isWritable && Json.areWritable words then
      some s!"dispatch {transaction.shownText} message words {Json.rowText words}"
    else none
  | .ignoredTail remark => some remark
  | .skipped indexer item block fault =>
    match Record.dataId item, (Json.int block).asText with
    | .ok event, .ok block =>
      some s!"{indexer}: skipping event {event} in block {block}: {fault.message}"
    | _, _ => none
  | .consumed indexer block outputs =>
    match (Json.int block).asText with
    | .ok block => some s!"{indexer}: block {block} -> {outputs} outputs"
    | .error _ => none

/-- A note as a line of the log, without its time.  A note that cannot be worded shows nothing and
stops nobody. -/
def line (note : Note) : String :=
  match note.message? with
  | some message => s!"[{note.level.name}] {note.channel}: {message}\n"
  | none => ""

/-- The lines of the notes that reach a threshold. -/
def linesFrom (threshold : Int) (notes : List Note) : String :=
  String.join ((notes.filter fun note => decide (threshold ≤ note.level.rank)).map line)

/-- Whether a note tells of an event left out. -/
def isSkip : Note → Bool
  | .skipped .. => true
  | _ => false

end Note

/-- A result with the notes taken on the way to it. -/
structure Noted (α : Type) where
  notes : List Note
  result : Outcome α

namespace Noted

variable {α β : Type}

/-- A result with no notes. -/
def plain (result : Outcome α) : Noted α := ⟨[], result⟩

/-- Goes on after a result, keeping the notes taken so far; a refusal ends the work. -/
def andThen (first : Noted α) (next : α → Noted β) : Noted β :=
  match first.result with
  | .ok a => ⟨first.notes ++ (next a).notes, (next a).result⟩
  | .error fault => ⟨first.notes, .error fault⟩

instance : Monad Noted where
  pure a := ⟨[], .ok a⟩
  bind := andThen

/-- The skips among the notes. -/
def skips (noted : Noted α) : List Note := noted.notes.filter Note.isSkip

@[simp] theorem pure_result (a : α) : (pure a : Noted α).result = .ok a := rfl

@[simp] theorem pure_notes (a : α) : (pure a : Noted α).notes = [] := rfl

theorem bind_of_ok {first : Noted α} {next : α → Noted β} {a : α} (h : first.result = .ok a) :
    first >>= next = ⟨first.notes ++ (next a).notes, (next a).result⟩ := by
  show andThen first next = _
  simp [andThen, h]

theorem bind_of_error {first : Noted α} {next : α → Noted β} {fault : Fault}
    (h : first.result = .error fault) : first >>= next = ⟨first.notes, .error fault⟩ := by
  show andThen first next = _
  simp [andThen, h]

end Noted

end OracleIndexer
