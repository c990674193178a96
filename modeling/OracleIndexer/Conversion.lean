import OracleIndexer.Fault
set_option autoImplicit false

/-!
# Conversions

Numbers and documents as text, with the limit on decimal digits.  A numeral that is too long does
not read.  A number that is too long cannot be written, neither by itself nor inside a document or a
message: a fault that would have to tell of one cannot be worded, and is replaced by that failure.
-/

namespace OracleIndexer

namespace Text.Numeral

/-- The number of a numeral.  Where a text is none, the fault tells of `told`. -/
def convert (base : Nat) (text : List Char) (told : String) : Outcome Int :=
  match read base text with
  | none => .error (.value (.notNumeral base told))
  | some n => if isLong base text then .error (.value (.longNumeral (digitCount text))) else .ok n

end Text.Numeral

namespace Json

mutual

/-- Whether every whole number of a document has few enough digits to be written. -/
def isWritable : Json → Bool
  | .int n => Text.Numeral.isWritable n
  | .array items => areWritable items
  | .object members => haveWritable members
  | _ => true

/-- Whether the whole numbers of all items can be written. -/
def areWritable : List Json → Bool
  | [] => true
  | item :: rest => isWritable item && areWritable rest

/-- Whether the whole numbers of all members can be written. -/
def haveWritable : List (String × Json) → Bool
  | [] => true
  | (_, value) :: rest => isWritable value && haveWritable rest

end

/-- The text of a document, a text standing for itself, unless a number in it cannot be written. -/
def asText (document : Json) : Outcome String :=
  if document.isWritable then .ok document.shownText else .error (.value .unwritable)

@[simp] theorem asText_text (s : String) : asText (.text s) = .ok s := rfl

end Json

/-- Whether the numbers in the wording of a codec fault can be written. -/
def CodecFault.isWritable : CodecFault → Bool
  | .outOfRange value | .halfOutOfRange _ value => Text.Numeral.isWritable value
  | .wideHexWord limit _ => Text.Numeral.isWritable limit
  | .unsupportedKind assetClass _ => Text.Numeral.isWritable assetClass
  | _ => true

/-- Whether the numbers in the wording of a layout fault can be written. -/
def LayoutFault.isWritable : LayoutFault → Bool
  | .claimLengthNotHex found | .claimLengthNegative found => found.isWritable
  | .shortClaim words expected _ =>
    Text.Numeral.isWritable words && Text.Numeral.isWritable expected
  | _ => true

/-- Whether the numbers in the wording of a value fault can be written. -/
def ValueFault.isWritable : ValueFault → Bool
  | .timestampRange found => found.isWritable
  | _ => true

namespace Fault

/-- Whether the numbers in the wording of a fault can be written. -/
def isWritable : Fault → Bool
  | .codec fault => fault.isWritable
  | .layout fault => fault.isWritable
  | .value fault => fault.isWritable
  | _ => true

/-- What is raised for a fault: the fault itself, or else the failure to word it. -/
def raised (fault : Fault) : Fault := if fault.isWritable then fault else .value .unwritable

theorem raised_of_isWritable {fault : Fault} (h : fault.isWritable = true) :
    fault.raised = fault := if_pos h

theorem raised_of_not_isWritable {fault : Fault} (h : fault.isWritable = false) :
    fault.raised = .value .unwritable := by
  rw [raised, h]
  rfl

/-- A fault that concerns one event alone is raised as one. -/
theorem isSkippable_raised {fault : Fault} (h : fault.isSkippable = true) :
    fault.raised.isSkippable = true := by
  rw [raised]
  split
  · exact h
  · rfl

end Fault

end OracleIndexer
