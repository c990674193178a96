import OracleIndexer.Fault
set_option autoImplicit false

/-!
# Record sizes

How many hexadecimal characters one feed record takes.  The main type of the feed decides; the gated
table knows only records of asset class zero.
-/

namespace OracleIndexer.Feed

/-- A rule that gives a record its size. -/
inductive SizeTable where
  /-- looks at the main type of records of asset class zero, and knows no others -/
  | assetClassGated
  /-- looks at the main type alone -/
  | mainTypeOnly
  deriving DecidableEq, Repr, Inhabited

namespace SizeTable

/-- The name of a table in configurations. -/
def name : SizeTable → String
  | .assetClassGated => "asset_class_gated"
  | .mainTypeOnly => "main_type_only"

/-- All tables. -/
def all : List SizeTable := [.assetClassGated, .mainTypeOnly]

/-- The table with a name. -/
def ofName? (s : String) : Option SizeTable := all.find? fun t => t.name == s

/-- The characters of a record with a unique price, its id included. -/
def uniqueSize : Nat := 214

/-- The characters of a record with a time-weighted price, its id included. -/
def twapSize : Nat := 470

/-- The size of a record by its main type. -/
def sizeOfMainType? (mainType : Int) : Option Nat :=
  if mainType = 0 then some uniqueSize
  else if mainType = 1 then some twapSize
  else none

/-- Whether a table looks at records of an asset class at all. -/
def admits (table : SizeTable) (assetClass : Int) : Bool :=
  match table with
  | .assetClassGated => assetClass == 0
  | .mainTypeOnly => true

/-- The size of a record. -/
def size (table : SizeTable) (assetClass feedType : Int) : Except CodecFault Nat :=
  if table.admits assetClass then
    match sizeOfMainType? (feedType / 256) with
    | some n => .ok n
    | none => .error (.unsupportedKind assetClass feedType)
  else .error (.unsupportedKind assetClass feedType)

@[simp] theorem ofName?_name (t : SizeTable) : ofName? t.name = some t := by
  cases t <;> decide

end SizeTable

end OracleIndexer.Feed
