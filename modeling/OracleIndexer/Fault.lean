import OracleIndexer.Json.Shown
set_option autoImplicit false

/-!
# Faults

Why an operation was refused.  The causes fall into families: what the message codec rejects, what
an event payload lacks, values that do not read, documents of an unusable kind, and faults of the
configuration and its surroundings.  Faults of the first three families concern one event alone, so
an indexer may leave that event out and go on.
-/

namespace OracleIndexer

/-- The two halves of a 256-bit amount. -/
inductive Half where
  | low
  | high
  deriving DecidableEq, Repr, Inhabited

/-- The name of a half. -/
def Half.name : Half → String
  | .low => "low"
  | .high => "high"

/-- What the message codec rejects. -/
inductive CodecFault where
  /-- a truth value where a number is needed -/
  | boolOperand
  /-- a document that is no operand of a word -/
  | badOperand (kind : String)
  /-- a document that is no number, where a word is built from one -/
  | notWhole (kind : String)
  /-- a number outside the 256-bit range -/
  | outOfRange (value : Int)
  /-- half of an amount outside the 128-bit range -/
  | halfOutOfRange (half : Half) (value : Int)
  /-- a shift by a negative count -/
  | negativeShift
  /-- a document that is no text, where a hex word is needed -/
  | notText (kind : String)
  /-- a text that is no hex word -/
  | notHexWord (text : String)
  /-- a hex word with too many digits -/
  | wideHexWord (limit : Int) (text : String)
  /-- a record count that is not decimal -/
  | countNotDecimal (text : String)
  /-- a record count that is not hexadecimal -/
  | countNotHex (text : String)
  /-- a record kind without a size -/
  | unsupportedKind (assetClass feedType : Int)
  /-- a stream that ends too early -/
  | truncated (needed available : Nat)
  deriving DecidableEq, Repr, Inhabited

/-- A number in hexadecimal, marked, its sign in front, padded with zeros to six characters. -/
def markedHex (n : Int) : String :=
  let digits := Text.Numeral.hex n.natAbs
  if n < 0 then String.ofList ('-' :: '0' :: 'x' :: digits.leftpad 3 '0')
  else String.ofList ('0' :: 'x' :: digits.leftpad 4 '0')

/-- The wording of a codec fault. -/
def CodecFault.message : CodecFault → String
  | .boolOperand => "bool is not an integer operand"
  | .badOperand kind => s!"cannot use {kind} as an integer operand"
  | .notWhole kind => s!"U256 needs an int, got {kind}"
  | .outOfRange value => s!"value out of 256 bit range: {value}"
  | .halfOutOfRange half value => s!"{half.name} half out of 128 bit range: {value}"
  | .negativeShift => "negative shift count"
  | .notText kind => s!"expected hex string, got {kind}"
  | .notHexWord text => s!"not a hex word: {Text.quoted text}"
  | .wideHexWord limit text => s!"hex word wider than {limit} digits: {Text.quoted text}"
  | .countNotDecimal text => s!"record count is not decimal: {Text.quoted text}"
  | .countNotHex text => s!"record count is not hex: {Text.quoted text}"
  | .unsupportedKind assetClass feedType =>
    s!"unsupported feed kind asset_class={assetClass} feed_type={markedHex feedType}"
  | .truncated needed available =>
    s!"message truncated: need {needed} hex chars, have {available}"

/-- What an event payload lacks. -/
inductive LayoutFault where
  /-- fewer felts than the fields of a layout -/
  | short (layout : String) (expected found : Nat)
  /-- fewer felts than a layout of open length needs -/
  | shortOpen (layout : String) (expected found : Nat)
  /-- a claim length that is not hexadecimal -/
  | claimLengthNotHex (found : Json)
  /-- a claim length below zero -/
  | claimLengthNegative (found : Json)
  /-- fewer felts than the claim length calls for -/
  | shortClaim (words expected found : Nat)
  deriving Repr, Inhabited

/-- The wording of a layout fault. -/
def LayoutFault.message : LayoutFault → String
  | .short layout expected found => s!"{layout} expects {expected} data felts, got {found}"
  | .shortOpen layout expected found =>
    s!"{layout} expects at least {expected} data felts, got {found}"
  | .claimLengthNotHex found => s!"AssertionMade claim length is not hex: {found.literalText}"
  | .claimLengthNegative found =>
    s!"AssertionMade claim length is negative: {found.literalText}"
  | .shortClaim words expected found =>
    s!"AssertionMade with {words} claim words expects {expected} data felts, got {found}"

/-- Values that do not read. -/
inductive ValueFault where
  /-- text that is no numeral of a base -/
  | notNumeral (base : Nat) (text : String)
  /-- a numeral with more digits than are converted -/
  | longNumeral (digits : Nat)
  /-- a number with more digits than are written -/
  | unwritable
  /-- text that is no run of byte pairs from some position on -/
  | notBytes (position : Nat)
  /-- a choice by a name that none of the alternatives has -/
  | unknownChoice
  /-- a date or time of day that does not exist -/
  | noSuchDate
  /-- a code point beyond the last one -/
  | noSuchCharacter
  | invalidHeader
  | invalidEvent
  | invalidItem
  | invalidBatch
  /-- a truth value where a block number or an index is needed -/
  | boolNumber
  /-- a timestamp outside the years 1 to 9999 -/
  | timestampRange (found : Json)
  /-- an indexer name that is not registered -/
  | unknownIndexer (name : String) (known : List String)
  deriving Repr, Inhabited

/-- A text between quotes, cut off after two hundred characters. -/
def shortened (text : String) : List Char := (Text.Quoted.encode text.toList).take 200

/-- What is said where a number has more digits than are converted. -/
def beyondLimit : String :=
  s!"Exceeds the limit ({Text.Numeral.digitLimit} digits) for integer string conversion"

/-- How the limit is raised. -/
def limitAdvice : String := "use sys.set_int_max_str_digits() to increase the limit"

/-- The wording of a value fault. -/
def ValueFault.message : ValueFault → String
  | .notNumeral base text =>
    s!"invalid literal for int() with base {base}: {String.ofList (shortened text)}"
  | .longNumeral digits => s!"{beyondLimit}: value has {digits} digits; {limitAdvice}"
  | .unwritable => s!"{beyondLimit}; {limitAdvice}"
  | .notBytes position =>
    s!"non-hexadecimal number found in fromhex() arg at position {position}"
  | .unknownChoice => "not a valid choice"
  | .noSuchDate => "no such date"
  | .noSuchCharacter => "no such character"
  | .invalidHeader => "Invalid block header JSON"
  | .invalidEvent => "Invalid event JSON"
  | .invalidItem => "Invalid event item JSON"
  | .invalidBatch => "Invalid batch JSON"
  | .boolNumber => "block number must be an integer"
  | .timestampRange found => s!"timestamp out of range: {found.literalText}"
  | .unknownIndexer name known =>
    let names := String.ofList (Json.literal (.array (known.map .text)))
    s!"unknown indexer {Text.quoted name}, expected one of {names}"

/-- Whether the wording of a value fault belongs to the interface; the others only tell what text
did not read or what number was too long. -/
def ValueFault.isWorded : ValueFault → Bool
  | .notNumeral .. | .longNumeral _ | .unwritable | .notBytes _ | .unknownChoice | .noSuchDate
  | .noSuchCharacter => false
  | _ => true

/-- A rule that a configuration breaks. -/
inductive Rule where
  | aModel
  | aMapping
  | aText
  | anEncodedText
  | aChoice
  | aContractAddress
  | aTruthValue
  | aReadableTruthValue
  deriving DecidableEq, Repr, Inhabited

/-- A place in a configuration, as the keys on the way to it, and the rule broken there. -/
structure Defect where
  location : List String
  rule : Rule
  deriving DecidableEq, Repr, Inhabited

/-- Why an operation was refused. -/
inductive Fault where
  | codec (fault : CodecFault)
  | layout (fault : LayoutFault)
  | value (fault : ValueFault)
  /-- a document of a kind that cannot be used where it stands -/
  | wrongKind
  /-- a position past the end of the broker's log -/
  | noSuchOffset
  /-- text that is no JSON document -/
  | notJson
  /-- text that is no YAML document -/
  | notYaml
  /-- a number written without a single character -/
  | emptyNumber
  /-- a word that is no truth value -/
  | unknownWord
  /-- a number too large for what it is used as -/
  | tooLarge
  /-- a document whose parts lie in one another without end, or too deep -/
  | tooDeep
  /-- an escape that names half of a surrogate pair alone, of which nothing more is told -/
  | loneHalf
  | missingFile
  /-- a directory where a file is needed -/
  | isDirectory
  /-- a file where a directory is needed -/
  | notDirectory
  /-- a configuration document that breaks rules -/
  | invalidSettings (defects : List Defect)
  /-- a configuration file that breaks rules -/
  | invalidConfiguration (file : String) (defects : List Defect)
  | noDeployment (network : String)
  | noContract (role network : String)
  | sinkFailed
  deriving Repr, Inhabited

namespace Fault

/-- The wording of a fault; empty where a fault has none of its own. -/
def message : Fault → String
  | .codec fault => fault.message
  | .layout fault => fault.message
  | .value fault => fault.message
  | .invalidConfiguration file _ => s!"Configuration error in {file}"
  | .noDeployment network => s!"no deployment configured for network {network}"
  | .noContract role network => s!"no {role} contract configured for network {network}"
  | .sinkFailed => "sink failed"
  | .wrongKind | .noSuchOffset | .notJson | .notYaml | .emptyNumber | .unknownWord | .tooLarge
  | .tooDeep | .loneHalf | .missingFile | .isDirectory | .notDirectory | .invalidSettings _ => ""

/-- The wording that belongs to the interface, if there is one. -/
def wording? : Fault → Option String
  | .value fault => if fault.isWorded then some fault.message else none
  | .wrongKind | .noSuchOffset | .notJson | .notYaml | .emptyNumber | .unknownWord | .tooLarge
  | .tooDeep | .loneHalf | .missingFile | .isDirectory | .notDirectory | .invalidSettings _ => none
  | fault => some fault.message

/-- Whether a fault concerns one event alone, so that the event may be left out. -/
def isSkippable : Fault → Bool
  | .codec _ | .layout _ | .value _ => true
  | _ => false

end Fault

/-- The result of an operation that may be refused. -/
abbrev Outcome (α : Type) := Except Fault α

end OracleIndexer
