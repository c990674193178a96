import OracleIndexer.Settings.Basic
import OracleIndexer.Yaml.Value
set_option autoImplicit false

/-!
# Validation

How settings are read from a document.  Every defect is reported, each with the keys on the way to
it; keys that mean nothing are ignored.
-/

namespace OracleIndexer

open Yaml (Value)

/-- A value, or all the defects that stand in its way. -/
abbrev Validated (α : Type) := Except (List Defect) α

namespace Validated

variable {α β : Type}

/-- The refusal of a value by a rule. -/
def broken (rule : Rule) : Validated α := .error [⟨[], rule⟩]

/-- Two values, or the defects of both. -/
def both (first : Validated α) (second : Validated β) : Validated (α × β) :=
  match first, second with
  | .ok a, .ok b => .ok (a, b)
  | .error defects, .ok _ => .error defects
  | .ok _, .error defects => .error defects
  | .error defects, .error more => .error (defects ++ more)

/-- A value that stands under a key. -/
def under (key : String) (value : Validated α) : Validated α :=
  value.mapError fun defects => defects.map fun d => { d with location := key :: d.location }

/-- The value of each item, or the defects of all. -/
def each {ι : Type} (read : ι → Validated α) : List ι → Validated (List α)
  | [] => .ok []
  | item :: rest => ((read item).both (each read rest)).map fun (a, as) => a :: as

end Validated

namespace Settings

open Validated (broken both under each)

/-- The value under a key, read if it is there. -/
def field {α : Type} (entries : List (Value × Value)) (key : String) (default : α)
    (read : Value → Validated α) : Validated α :=
  match Value.entry? key entries with
  | some value => under key (read value)
  | none => .ok default

/-- A text, or the text that bytes encode. -/
def readText : Value → Validated String
  | .text s => .ok s
  | .bytes bytes =>
    match String.fromUTF8? ⟨bytes.toArray⟩ with
    | some s => .ok s
    | none => broken .anEncodedText
  | _ => broken .aText

/-- The words for false, in lower case. -/
def falseWords : List String := ["0", "f", "n", "no", "off", "false"]

/-- The words for true, in lower case. -/
def trueWords : List String := ["1", "t", "y", "on", "yes", "true"]

/-- A truth value by a number that is zero or one. -/
def flagOfInt (n : Int) : Validated Bool :=
  if n = 0 then .ok false
  else if n = 1 then .ok true
  else if -0x8000000000000000 ≤ n ∧ n < 0x8000000000000000 then broken .aReadableTruthValue
  else broken .aTruthValue

/-- A truth value by a floating-point number, which must be a whole one above the least of 64
bits. -/
def flagOfFloat (x : Binary64) : Validated Bool :=
  match x.toInt? with
  | some n => if n = -0x8000000000000000 then broken .aTruthValue else flagOfInt n
  | none => broken .aTruthValue

/-- A truth value by its word, in either case. -/
def flagOfWord (s : String) : Validated Bool :=
  let word := s.map Char.toLower
  if falseWords.contains word then .ok false
  else if trueWords.contains word then .ok true
  else broken .aReadableTruthValue

/-- A truth value: itself, one of the words, or zero or one. -/
def readFlag : Value → Validated Bool
  | .bool b => .ok b
  | .int n => flagOfInt n
  | .float x => flagOfFloat x
  | .text s => flagOfWord s
  | .bytes bytes =>
    match String.fromUTF8? ⟨bytes.toArray⟩ with
    | some s => flagOfWord s
    | none => broken .aReadableTruthValue
  | _ => broken .aTruthValue

/-- One of the alternatives that have names. -/
def readChoice {α : Type} (ofName? : String → Option α) (value : Value) : Validated α :=
  match readText value with
  | .ok s =>
    match ofName? s with
    | some choice => .ok choice
    | none => broken .aChoice
  | .error _ => broken .aChoice

/-- Whether a text is the address of a contract: the marker `0x` and between one and sixty-four
hexadecimal digits.  A line feed at the end is let pass. -/
def isAddress (s : String) : Bool :=
  match s.toList with
  | '0' :: 'x' :: rest =>
    let digits := rest.takeWhile Text.isHexDigit
    let tail := rest.drop digits.length
    decide (1 ≤ digits.length ∧ digits.length ≤ 64) && (tail.isEmpty || tail == ['\n'])
  | _ => false

/-- The address of a contract. -/
def addressOf (s : String) : Validated (Option String) :=
  if isAddress s then .ok (some s) else broken .aContractAddress

/-- The address of a contract, which may be absent. -/
def readAddress : Value → Validated (Option String)
  | .null => .ok none
  | value => (readText value).bind addressOf

/-- A deployment. -/
def readDeployment : Value → Validated Deployment
  | .mapping entries =>
    (each (fun role => (field entries role.name none readAddress).map fun a => (role, a))
      Role.all).map fun addresses => ⟨fun role => (addresses.lookup role).join⟩
  | _ => broken .aModel

/-- A deployment with its name. -/
def readNamedDeployment (entry : Value × Value) : Validated (String × Deployment) :=
  under entry.1.keyText (both (under "[key]" (readText entry.1)) (readDeployment entry.2))

/-- Each deployment under its name; of those with one name the last counts. -/
def byName (deployments : List (String × Deployment)) : List (String × Deployment) :=
  deployments.foldl (fun done entry => Json.putMember entry.1 entry.2 done) []

/-- The known deployments. -/
def readDeployments : Value → Validated (List (String × Deployment))
  | .mapping entries => (each readNamedDeployment entries).map byName
  | _ => broken .aMapping

/-- How messages are read. -/
def readCodec : Value → Validated (Feed.SizeTable × Feed.CountRadix)
  | .mapping entries =>
    both (field entries "size_table" .assetClassGated (readChoice Feed.SizeTable.ofName?))
      (field entries "count_radix" .decimal (readChoice Feed.CountRadix.ofName?))
  | _ => broken .aModel

/-- Reads settings. -/
def read : Value → Validated Settings
  | .mapping entries =>
    let network := field entries "network" defaultNetwork readText
    let skipFailed := field entries "skip_failed_events" false readFlag
    let codec := field entries "codec" (.assetClassGated, .decimal) readCodec
    let deployments := field entries "deployments" [] readDeployments
    (both (both network skipFailed) (both codec deployments)).map
      fun ((network, skipFailed), (sizeTable, countRadix), deployments) =>
        { network, skipFailed, sizeTable, countRadix, deployments }
  | _ => broken .aModel

/-- How deep the collections lie that settings are read from: the contracts stand in deployments,
and these stand under their names. -/
def depth : Nat := 3

/-- Settings given as a document. -/
def ofValue (value : Value) : Outcome Settings :=
  match read value with
  | .ok settings => .ok settings
  | .error defects => .error (.invalidSettings defects)

/-- Settings given as a JSON document. -/
def ofJson (document : Json) : Outcome Settings := ofValue (.ofJson document)

end Settings

end OracleIndexer
