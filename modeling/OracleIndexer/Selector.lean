import OracleIndexer.Fault
import OracleIndexer.Keccak
set_option autoImplicit false

/-!
# Selectors

An event's selector is the low 250 bits of the Keccak-256 digest of its name.
-/

namespace OracleIndexer.Selector

/-- The selector of a name, as a number. -/
def number (name : String) : Nat := Keccak.digest name.toUTF8.toList % (1 <<< 250)

/-- The selector of a name, as hexadecimal text without padding. -/
def ofName (name : String) : String :=
  String.ofList ('0' :: 'x' :: Text.Numeral.hex (number name))

/-- The selector of the name that a document gives. -/
def ofDocument : Json → Outcome String
  | .text name => .ok (ofName name)
  | _ => .error .wrongKind

end OracleIndexer.Selector
