import OracleIndexer.Feed.CountRadix
import OracleIndexer.Feed.Id
import OracleIndexer.Feed.SizeTable
set_option autoImplicit false

/-!
# Feed batches

A feed message is a stream of characters: four that give a record count, then that many records,
each of them a feed id of sixty-four characters followed by the rest of the record.  Decoding keeps
the ids and steps over the rest.  What follows the last record is ignored.
-/

namespace OracleIndexer.Feed

/-- How messages are read.  An entry is `none` when it was chosen by a name that no alternative has;
it is refused when it is first needed. -/
structure Format where
  sizeTable : Option SizeTable
  countRadix : Option CountRadix
  deriving DecidableEq, Repr, Inhabited

/-- What a message holds: its ids in order, marked with `0x`, the count it declared, and the number
of characters behind its last record. -/
structure Batch where
  ids : List String
  count : Int
  trailing : Nat
  deriving DecidableEq, Repr, Inhabited

namespace Batch

/-- The number of characters of a record count. -/
def countWidth : Nat := 4

/-- The first `width` of the remaining characters; `done` ones stand before them. -/
def take (done width : Nat) (rest : List Char) : Except CodecFault (List Char) :=
  if width ≤ rest.length then .ok (rest.take width)
  else .error (.truncated (done + width) (done + rest.length))

/-- The record count of a message, by a radix that may be unknown. -/
def readCount (radix : Option CountRadix) (text : List Char) : Outcome Int :=
  match radix with
  | some r => (r.read text).mapError .codec
  | none => .error (.value .unknownChoice)

/-- The size of a record, by a table that may be unknown. -/
def sizeOf (table : Option SizeTable) (assetClass feedType : Int) : Outcome Nat :=
  match table with
  | some t => CodecFault.raise (t.size assetClass feedType)
  | none => .error (.value .unknownChoice)

/-- One record: the characters of its id, and its size. -/
def record (table : Option SizeTable) (done : Nat) (rest : List Char) :
    Outcome (List Char × Nat) := do
  let digits ← (take done Id.width rest).mapError .codec
  let id ← (Id.ofHex (String.ofList digits)).mapError .codec
  let size ← sizeOf table id.assetClass id.feedType
  let _ ← (take done size rest).mapError .codec
  return (digits, size)

/-- The ids of a number of records, and what follows the last one. -/
def records (table : Option SizeTable) :
    Nat → Nat → List Char → Outcome (List (List Char) × List Char)
  | 0, _, rest => .ok ([], rest)
  | n + 1, done, rest => do
    let (digits, size) ← record table done rest
    let (more, after) ← records table n (done + size) (rest.drop size)
    return (digits :: more, after)

/-- Decodes a message. -/
def decode (format : Format) (stream : List Char) : Outcome Batch := do
  let head ← (take 0 countWidth stream).mapError .codec
  let count ← readCount format.countRadix head
  let (ids, after) ← records format.sizeTable count.toNat countWidth (stream.drop countWidth)
  return {
    ids := ids.map fun digits => String.ofList ('0' :: 'x' :: digits)
    count
    trailing := after.length }

/-- The refusal of a document that is no text.  An array or object too short to hold a count is
reported as a message that ends too early; the count of a longer array is looked for in vain. -/
def refusal (format : Format) : Json → Fault
  | .array items =>
    if items.length < countWidth then .codec (.truncated countWidth items.length)
    else if format.countRadix.isNone then .value .unknownChoice
    else .wrongKind
  | .object members =>
    if members.length < countWidth then .codec (.truncated countWidth members.length)
    else .wrongKind
  | _ => .wrongKind

/-- Decodes a document as a message; only a text is one. -/
def decodeDocument (format : Format) : Json → Outcome Batch
  | .text s => decode format s.toList
  | other => .error (refusal format other)

/-- The line that reports characters behind the last record, if there are any. -/
def remark? (batch : Batch) : Option String :=
  if batch.trailing = 0 then none
  else some s!"ignoring {batch.trailing} trailing hex chars after {batch.count} records"

end Batch

end OracleIndexer.Feed
