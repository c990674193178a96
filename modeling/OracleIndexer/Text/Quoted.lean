import OracleIndexer.Text.Numeral
import OracleIndexer.Text.Printable
set_option autoImplicit false

/-!
# Quoted text

Text shown between quotes, as messages show it.  The quotes are single ones, or double ones when the
text holds a single quote and no double one.  The quote in use and the backslash are escaped, as are
line feed, carriage return and tab; every other character that is not printable is written by its
code point.
-/

namespace OracleIndexer.Text.Quoted

/-- The quote to put around a text. -/
def quoteFor (text : List Char) : Char :=
  if text.contains '\'' && !text.contains '"' then '"' else '\''

/-- A code point in the shortest of the three escape forms that holds it. -/
def escapeCode (code : Nat) : List Char :=
  if code < 0x100 then '\\' :: 'x' :: Numeral.paddedHex 2 code
  else if code < 0x10000 then '\\' :: 'u' :: Numeral.paddedHex 4 code
  else '\\' :: 'U' :: Numeral.paddedHex 8 code

/-- One character inside quotes. -/
def encodeChar (quote c : Char) : List Char :=
  if c = quote ∨ c = '\\' then ['\\', c]
  else if c = '\n' then ['\\', 'n']
  else if c = '\r' then ['\\', 'r']
  else if c = '\t' then ['\\', 't']
  else if isPrintable c then [c]
  else escapeCode c.toNat

/-- A text between quotes. -/
def encode (text : List Char) : List Char :=
  let quote := quoteFor text
  quote :: text.flatMap (encodeChar quote) ++ [quote]

end OracleIndexer.Text.Quoted

namespace OracleIndexer.Text

/-- A string between quotes, as messages show it. -/
def quoted (s : String) : String := String.ofList (Quoted.encode s.toList)

end OracleIndexer.Text
