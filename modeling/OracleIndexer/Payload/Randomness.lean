import OracleIndexer.Fault
set_option autoImplicit false

/-!
# Payloads of randomness events

The felts of events about requests for random words, by position.
-/

namespace OracleIndexer.Payload

/-- A request for random words. -/
structure RandomnessRequest where
  requestId : Json
  callerAddress : Json
  seed : Json
  minimumBlockNumber : Json
  callbackAddress : Json
  callbackFeeLimit : Json
  wordCount : Json
  deriving Repr, Inhabited

/-- Reads a request. -/
def RandomnessRequest.ofData : List Json → Except LayoutFault RandomnessRequest
  | requestId :: callerAddress :: seed :: minimumBlockNumber :: callbackAddress
      :: callbackFeeLimit :: wordCount :: _ =>
    .ok { requestId, callerAddress, seed, minimumBlockNumber, callbackAddress, callbackFeeLimit,
          wordCount }
  | data => .error (.short "RandomnessRequest" 7 data.length)

/-- A change in the status of a request. -/
structure StatusChange where
  callerAddress : Json
  requestId : Json
  status : Json
  deriving Repr, Inhabited

/-- Reads a status change. -/
def StatusChange.ofData : List Json → Except LayoutFault StatusChange
  | callerAddress :: requestId :: status :: _ => .ok { callerAddress, requestId, status }
  | data => .error (.short "RandomnessStatusChange" 3 data.length)

end OracleIndexer.Payload
