import OracleIndexer.Fault
set_option autoImplicit false

/-!
# Payloads of price events

The felts of price events by position.  Felts beyond the last field are ignored.
-/

namespace OracleIndexer.Payload

/-- A price submitted by one publisher. -/
structure SpotEntry where
  timestamp : Json
  source : Json
  publisher : Json
  price : Json
  pairId : Json
  volume : Json
  deriving Repr, Inhabited

/-- Reads a spot entry. -/
def SpotEntry.ofData : List Json → Except LayoutFault SpotEntry
  | timestamp :: source :: publisher :: price :: pairId :: volume :: _ =>
    .ok { timestamp, source, publisher, price, pairId, volume }
  | data => .error (.short "SpotEntry" 6 data.length)

/-- A price of a future, which expires at a time counted in milliseconds. -/
structure FutureEntry extends SpotEntry where
  expirationTimestamp : Json
  deriving Repr, Inhabited

/-- Reads a future entry. -/
def FutureEntry.ofData : List Json → Except LayoutFault FutureEntry
  | timestamp :: source :: publisher :: price :: pairId :: volume :: expirationTimestamp :: _ =>
    .ok { timestamp, source, publisher, price, pairId, volume, expirationTimestamp }
  | data => .error (.short "FutureEntry" 7 data.length)

/-- A price aggregated over several sources. -/
structure Checkpoint where
  pairId : Json
  timestamp : Json
  price : Json
  aggregationMode : Json
  sourceCount : Json
  deriving Repr, Inhabited

/-- Reads a checkpoint. -/
def Checkpoint.ofData : List Json → Except LayoutFault Checkpoint
  | pairId :: timestamp :: price :: aggregationMode :: sourceCount :: _ =>
    .ok { pairId, timestamp, price, aggregationMode, sourceCount }
  | data => .error (.short "CheckpointSpotEntry" 5 data.length)

end OracleIndexer.Payload
