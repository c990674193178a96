import OracleIndexer.Word256
set_option autoImplicit false

/-!
# Feed ids

A feed id packs four fields into one word: the pair id in the low 216 bits, then sixteen bits of
feed type, sixteen bits of asset class, and eight reserved bits at the top.  The upper byte of the
feed type is the main type, which decides how long a record of the feed is.
-/

namespace OracleIndexer.Feed

/-- The fields of a feed id.  Nothing bounds a field until the id is packed. -/
structure Id where
  assetClass : Int
  feedType : Int
  pairId : Int
  reserved : Int
  deriving DecidableEq, Repr, Inhabited

namespace Id

/-- The number of hexadecimal digits of a feed id. -/
def width : Nat := 64

/-- Where the feed type starts, above the pair id. -/
def feedTypeShift : Nat := 216

/-- Where the asset class starts. -/
def assetClassShift : Nat := 232

/-- Where the reserved bits start. -/
def reservedShift : Nat := 248

/-- The upper byte of the feed type. -/
def mainType (id : Id) : Int := id.feedType / 256

/-- The fields of a word. -/
def ofWord (w : Word256) : Id where
  assetClass := ((w.toNat >>> assetClassShift) &&& 0xFFFF : Nat)
  feedType := ((w.toNat >>> feedTypeShift) &&& 0xFFFF : Nat)
  pairId := (w.toNat &&& (1 <<< feedTypeShift - 1) : Nat)
  reserved := (w.toNat >>> reservedShift : Nat)

/-- Reads a feed id of up to sixty-four hexadecimal digits. -/
def ofHex (s : String) : Except CodecFault Id := (Word256.ofHex s).map ofWord

/-- Shifts four fields into place, the highest first, and joins them. -/
def join (reserved assetClass feedType pairId : Outcome Word256) : Outcome Word256 := do
  let reserved ← (← reserved).shiftLeft reservedShift
  let assetClass ← (← assetClass).shiftLeft assetClassShift
  let upper ← reserved.or assetClass.toNat
  let feedType ← (← feedType).shiftLeft feedTypeShift
  let upper ← upper.or feedType.toNat
  let pairId ← pairId
  upper.or pairId.toNat

/-- The word of a feed id.  A field is refused when it leaves the word, not when it reaches into
its neighbour. -/
def toWord (id : Id) : Outcome Word256 :=
  join (Word256.ofInt id.reserved) (Word256.ofInt id.assetClass) (Word256.ofInt id.feedType)
    (Word256.ofInt id.pairId)

/-- The word of fields given as documents, each of which must be a whole number. -/
def packDocuments (reserved assetClass feedType pairId : Json) : Outcome Word256 :=
  join (Word256.ofDocument reserved) (Word256.ofDocument assetClass)
    (Word256.ofDocument feedType) (Word256.ofDocument pairId)

end Id

end OracleIndexer.Feed
