import OracleIndexer.Fault
set_option autoImplicit false

/-!
# Payload of a message dispatch

The nonce of a message stands at position six, and the words of its body from position fifteen on.
-/

namespace OracleIndexer.Payload

/-- A dispatched message. -/
structure Dispatch where
  nonce : Json
  words : List Json
  deriving Repr, Inhabited

/-- Where the nonce of a message stands. -/
def Dispatch.noncePosition : Nat := 6

/-- Where the words of a message start. -/
def Dispatch.bodyPosition : Nat := 15

/-- Reads a dispatched message. -/
def Dispatch.ofData (data : List Json) : Except LayoutFault Dispatch :=
  if Dispatch.bodyPosition ≤ data.length then
    .ok {
      nonce := data.getD Dispatch.noncePosition .null
      words := data.drop Dispatch.bodyPosition }
  else .error (.shortOpen "Dispatch" Dispatch.bodyPosition data.length)

end OracleIndexer.Payload
