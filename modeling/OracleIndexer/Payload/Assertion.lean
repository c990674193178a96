import OracleIndexer.Conversion
set_option autoImplicit false

/-!
# Payloads of assertion events

The felts of events about assertions, by position.  The payload of a new assertion holds its claim
as a byte array, so the fields behind the claim move with its length: after the number `n` of full
words come the full words, the word left over, the length of that word, and nine fields.
-/

namespace OracleIndexer.Payload

/-- A new assertion.  Its claim is the full words and the word left over. -/
structure AssertionMade where
  assertionId : Json
  domainIdLow : Json
  domainIdHigh : Json
  claimWords : List Json
  asserter : Json
  callbackRecipient : Json
  escalationManager : Json
  caller : Json
  expirationTimestamp : Json
  currency : Json
  bondLow : Json
  bondHigh : Json
  identifier : Json
  deriving Repr, Inhabited

/-- The number of felts of an assertion with `n` full claim words. -/
def AssertionMade.size (n : Nat) : Nat := 15 + n

/-- The number of full claim words that a felt gives, a numeral of base sixteen. -/
def AssertionMade.claimLength (count : Json) : Except LayoutFault Nat :=
  match count.asText with
  | .error _ => .error (.claimLengthNotHex count)
  | .ok text =>
    match Text.Numeral.read 16 text.toList with
    | none => .error (.claimLengthNotHex count)
    | some (.negSucc _) => .error (.claimLengthNegative count)
    | some (.ofNat n) => .ok n

/-- The fields of a new assertion by position, or what its felts lack. -/
def AssertionMade.fields (data : List Json) : Except LayoutFault AssertionMade :=
  match data with
  | assertionId :: domainIdLow :: domainIdHigh :: count :: rest => do
    let n ← AssertionMade.claimLength count
    match rest.drop (n + 2) with
    | asserter :: callbackRecipient :: escalationManager :: caller :: expirationTimestamp
        :: currency :: bondLow :: bondHigh :: identifier :: _ =>
      .ok { assertionId, domainIdLow, domainIdHigh, claimWords := rest.take (n + 1), asserter,
            callbackRecipient, escalationManager, caller, expirationTimestamp, currency, bondLow,
            bondHigh, identifier }
    | _ => .error (.shortClaim n (AssertionMade.size n) data.length)
  | _ => .error (.shortOpen "AssertionMade" 4 data.length)

/-- Reads a new assertion.  What its felts lack is told, if the claim length in the telling can be
written. -/
def AssertionMade.ofData (data : List Json) : Outcome AssertionMade :=
  (AssertionMade.fields data).mapError fun fault => Fault.raised (.layout fault)

/-- A disputed assertion. -/
structure AssertionDisputed where
  assertionId : Json
  caller : Json
  disputer : Json
  requestId : Json
  deriving Repr, Inhabited

/-- Reads a dispute. -/
def AssertionDisputed.ofData : List Json → Except LayoutFault AssertionDisputed
  | assertionId :: caller :: disputer :: requestId :: _ =>
    .ok { assertionId, caller, disputer, requestId }
  | data => .error (.short "AssertionDisputed" 4 data.length)

/-- A settled assertion. -/
structure AssertionSettled where
  assertionId : Json
  bondRecipient : Json
  disputed : Json
  settlementResolution : Json
  settleCaller : Json
  deriving Repr, Inhabited

/-- Reads a settlement. -/
def AssertionSettled.ofData : List Json → Except LayoutFault AssertionSettled
  | assertionId :: bondRecipient :: disputed :: settlementResolution :: settleCaller :: _ =>
    .ok { assertionId, bondRecipient, disputed, settlementResolution, settleCaller }
  | data => .error (.short "AssertionSettled" 5 data.length)

end OracleIndexer.Payload
