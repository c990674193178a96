import OracleIndexer.CommandLine.Run
set_option autoImplicit false

/-!
# The program

Reads the files that a command line names, runs it, and shows the report.
-/

open OracleIndexer.CommandLine

/-- The text of a file, or why there is none. -/
def fileText (path : String) : IO (OracleIndexer.Outcome String) := do
  try return .ok (← IO.FS.readFile path)
  catch
    | .inappropriateType .. => return .error .isDirectory
    | _ => return .error .missingFile

/-- The files that a command line names, with their texts. -/
def namedFiles (words : List String) : IO (List (String × OracleIndexer.Outcome String)) :=
  match Arguments.read words with
  | .error _ => return []
  | .ok arguments =>
    (arguments.config :: arguments.input.toList).mapM fun path => do
      return (path, ← fileText path)

/-- The closing words of a run that did not end well, and its exit code. -/
def verdict : Ending → String × UInt32
  | .done => ("", 0)
  | .refused .help =>
    ("options: --indexer NAME --input FILE --config FILE --print-filter --verbose\n", 0)
  | .refused .misuse => ("the command line does not fit the options; see --help\n", 2)
  | .noInput => (noInputText ++ "\n", 2)
  | .failed fault => (fault.message ++ "\n", 1)

/-- Runs a command line. -/
def main (words : List String) : IO UInt32 := do
  let files ← namedFiles words
  let surroundings : Surroundings :=
    { file := fun path => (files.lookup path).getD (.error .missingFile)
      network := ← IO.getEnv "TRANSFORM_NETWORK"
      level := ← IO.getEnv "LOG_LEVEL" }
  let report := run surroundings words
  let (closing, code) := verdict report.ending
  IO.print report.shown
  IO.eprint (report.noted ++ closing)
  return code
