import OracleIndexer.Json.Shown
import OracleIndexer.Text.Base64
import OracleIndexer.Yaml.Kind
set_option autoImplicit false

/-!
# Values

The values of documents, and what the texts of scalars stand for.  Of entries with one key the last
value counts, at the place of the first.
-/

namespace OracleIndexer.Yaml

/-- A value of a document. -/
inductive Value where
  | null
  | bool (value : Bool)
  | int (value : Int)
  | float (value : Binary64)
  | text (value : String)
  | bytes (value : List UInt8)
  | instant (value : Instant)
  | sequence (items : List Value)
  | mapping (entries : List (Value × Value))
  | set (members : List Value)
  deriving Repr, Inhabited

namespace Value

/-- Whether a value counts as given: not null, false, zero or empty. -/
def isGiven : Value → Bool
  | .null => false
  | .bool b => b
  | .int n => n != 0
  | .float x => !x.isZero
  | .text s => !s.isEmpty
  | .bytes bs => !bs.isEmpty
  | .instant _ => true
  | .sequence items => !items.isEmpty
  | .mapping entries => !entries.isEmpty
  | .set members => !members.isEmpty

/-! ## Keys -/

/-- The whole number that a key equals, if it equals one. -/
def toInt? : Value → Option Int
  | .bool b => some (if b then 1 else 0)
  | .int n => some n
  | .float x => x.toInt?
  | _ => none

/-- Whether two keys are one.  Numbers are compared by value, across their kinds. -/
def sameKey (a b : Value) : Bool :=
  match a, b with
  | .null, .null => true
  | .text s, .text t => s == t
  | .bytes s, .bytes t => s == t
  | .instant x, .instant y => x.same y
  | .float x, .float y => x == y || (x.isZero && y.isZero)
  | a, b => a.toInt?.isSome && a.toInt? == b.toInt?

/-- Puts an entry into a mapping: in place of the one with its key, or else at the end. -/
def putEntry {α : Type} (key : Value) (value : α) : List (Value × α) → List (Value × α)
  | [] => [(key, value)]
  | (k, v) :: rest =>
    if sameKey k key then (k, value) :: rest else (k, v) :: putEntry key value rest

/-- The value of a text key. -/
def entry? (key : String) : List (Value × Value) → Option Value
  | [] => none
  | (.text k, v) :: rest => if k = key then some v else entry? key rest
  | _ :: rest => entry? key rest

/-- A byte between quotes. -/
def byteText (quote : Char) (byte : UInt8) : List Char :=
  if 0x20 ≤ byte ∧ byte < 0x7F then Text.Quoted.encodeChar quote (Char.ofNat byte.toNat)
  else if byte = 0x09 ∨ byte = 0x0A ∨ byte = 0x0D then
    Text.Quoted.encodeChar quote (Char.ofNat byte.toNat)
  else Text.Quoted.escapeCode byte.toNat

/-- Bytes between quotes, as messages show them. -/
def bytesText (bytes : List UInt8) : String :=
  let quote := Text.Quoted.quoteFor (bytes.map fun byte => Char.ofNat byte.toNat)
  String.ofList ('b' :: quote :: bytes.flatMap (byteText quote) ++ [quote])

/-- The text of a key on the way to a place in a document. -/
def keyText : Value → String
  | .null => Json.literalText .null
  | .bool b => toString (if b then 1 else 0)
  | .int n => toString n
  | .float x => Json.literalText (.float x)
  | .text s => s
  | .bytes bs => bytesText bs
  | .instant moment => moment.shown
  | .sequence _ | .mapping _ | .set _ => ""

/-! ## Scalars -/

/-- A truth value by its word. -/
def ofWord (s : String) : Outcome Value :=
  let word := s.map Char.toLower
  if Kind.trueWords.contains word then .ok (.bool true)
  else if Kind.falseWords.contains word then .ok (.bool false)
  else .error .unknownWord

/-- An instant that exists. -/
def ofInstant (s : String) : Outcome Value :=
  match Instant.ofText? (Kind.withoutLineEnd s.toList) with
  | some moment =>
    if moment.isValid then .ok (.instant moment) else .error (.value .noSuchDate)
  | none => .error .wrongKind

/-- Bytes by their text in base 64, which must be ASCII. -/
def ofBase64 (s : String) : Outcome Value :=
  if s.toList.all fun c => c.toNat < 128 then
    match Text.Base64.decode s.toList with
    | some decoded => .ok (.bytes decoded)
    | none => .error .notYaml
  else .error .notYaml

/-- The value that a text of a kind denotes. -/
def ofScalar (kind : Kind) (s : String) : Outcome Value :=
  match kind with
  | .null => .ok .null
  | .bool => ofWord s
  | .int => (Number.whole s.toList).map .int
  | .float => (Number.point s.toList).map .float
  | .instant => ofInstant s
  | .binary => ofBase64 s
  | .text => .ok (.text s)
  | .sequence | .mapping | .set | .pairs | .merge | .plainValue | .unknown => .error .notYaml

mutual

/-- The value of a JSON document. -/
def ofJson : Json → Value
  | .null => .null
  | .bool b => .bool b
  | .int n => .int n
  | .float x => .float x
  | .text s => .text s
  | .array items => .sequence (ofJsons items)
  | .object members => .mapping (ofMembers members)

/-- The values of JSON documents. -/
def ofJsons : List Json → List Value
  | [] => []
  | item :: rest => ofJson item :: ofJsons rest

/-- The entries of a JSON object. -/
def ofMembers : List (String × Json) → List (Value × Value)
  | [] => []
  | (key, value) :: rest => (.text key, ofJson value) :: ofMembers rest

end

end Value

end OracleIndexer.Yaml
