import OracleIndexer.BatchFile
import OracleIndexer.CommandLine.Arguments
import OracleIndexer.Console
import OracleIndexer.Indexer.Run
import OracleIndexer.Journal.Threshold
import OracleIndexer.Settings.File
set_option autoImplicit false

/-!
# Runs

What a command line does: it shows the filter of an indexer, or transforms the batches of a file and
shows their outputs.  Notes go beside the outputs, and what was shown before a failure stays.
-/

namespace OracleIndexer.CommandLine

/-- What a run finds around it: the texts of files by path, or why there is none, and the network
and the level that the environment names. -/
structure Surroundings where
  file : String → Outcome String
  network : Option String
  level : Option String

/-- How a run ended. -/
inductive Ending where
  | done
  | refused (refusal : Refusal)
  /-- neither batches nor the filter were asked for -/
  | noInput
  | failed (fault : Fault)
  deriving Repr, Inhabited

/-- What a run shows, what it notes beside, and how it ended. -/
structure Report where
  shown : String
  noted : String
  ending : Ending
  deriving Repr, Inhabited

/-- What to say when neither batches nor the filter were asked for. -/
def noInputText : String := "--input is required unless --print-filter is given"

/-- The batches worked off: the console after them, the notes, and the fault that ended the work. -/
structure Progress where
  console : Console
  notes : List Note
  fault : Option Fault
  deriving Inhabited

/-- Transforms batches in order and shows their outputs, up to the first that fails. -/
def work (indexer : Indexer) (settings : Settings) (console : Console) : List Json → Progress
  | [] => ⟨console, [], none⟩
  | batch :: rest =>
    let attempt := indexer.runBatch batch settings
    match attempt.result with
    | .error fault => ⟨console, attempt.notes, some fault⟩
    | .ok outputs =>
      match console.take Json.levels outputs with
      | (shown, some fault) => ⟨shown, attempt.notes, some fault⟩
      | (shown, none) =>
        let more := work indexer settings shown rest
        { more with notes := attempt.notes ++ more.notes }

/-- The network, the filter and the sink options of an indexer. -/
def filterPage (indexer : Indexer) (settings : Settings) : Outcome String := do
  let contract ← settings.contract indexer.role
  let page := Json.object [("network", .text settings.network),
    ("filter", indexer.filter (.text contract)), ("sinkOptions", indexer.sinkOptions)]
  return page.page ++ "\n"

/-- The closing line of a run. -/
def summary (indexer : Indexer) (settings : Settings) (written : Nat) : String :=
  s!"Wrote {written} outputs for {indexer.name} on {settings.network}\n"

/-- Transforms the batches of a file. -/
def runFile (surroundings : Surroundings) (threshold : Int) (indexer : Indexer)
    (settings : Settings) (name : String) : Report :=
  match (do BatchFile.ofString Json.levels (← surroundings.file name) : Outcome (List Json)) with
  | .error fault => ⟨"", "", .failed fault⟩
  | .ok batches =>
    let progress := work indexer settings .empty batches
    let noted := Note.linesFrom threshold progress.notes
    match progress.fault with
    | some fault => ⟨progress.console.text, noted, .failed fault⟩
    | none =>
      ⟨progress.console.text, noted ++ summary indexer settings progress.console.written, .done⟩

/-- Runs with arguments.  The settings are read before anything else. -/
def runWith (surroundings : Surroundings) (arguments : Arguments) : Report :=
  let threshold :=
    if arguments.verbose then Threshold.verbose else Threshold.ofEnvironment surroundings.level
  let settings : Outcome Settings := do
    Settings.ofFile arguments.config (← surroundings.file arguments.config) surroundings.network
  match settings with
  | .error fault => ⟨"", "", .failed fault⟩
  | .ok settings =>
    if arguments.printFilter then
      match filterPage arguments.indexer settings with
      | .ok page => ⟨page, "", .done⟩
      | .error fault => ⟨"", "", .failed fault⟩
    else
      let name := arguments.input.getD ""
      if name.isEmpty then ⟨"", "", .noInput⟩
      else runFile surroundings threshold arguments.indexer settings name

/-- Runs a command line. -/
def run (surroundings : Surroundings) (words : List String) : Report :=
  match Arguments.read words with
  | .ok arguments => runWith surroundings arguments
  | .error refusal => ⟨"", "", .refused refusal⟩

end OracleIndexer.CommandLine
