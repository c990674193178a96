import OracleIndexer.Fault
set_option autoImplicit false

/-!
# Writing documents

The JSON text of a document, in ASCII.  Items are separated by a comma and a blank, keys from values
by a colon and a blank.  The one-line form has the members of every object in the order of their
keys; the indented form keeps the order in which they stand.  Every document has a text, but one
with a number too long or with too many levels is not written.
-/

namespace OracleIndexer.Json

/-- The two-character escapes. -/
def shortEscape? (c : Char) : Option Char :=
  if c = '"' then some '"'
  else if c = '\\' then some '\\'
  else if c = '\n' then some 'n'
  else if c = '\r' then some 'r'
  else if c = '\t' then some 't'
  else if c.toNat = 8 then some 'b'
  else if c.toNat = 12 then some 'f'
  else none

/-- A 16-bit unit as an escape. -/
def escapeUnit (unit : Nat) : List Char := '\\' :: 'u' :: Text.Numeral.paddedHex 4 unit

/-- A character inside a written text.  One beyond the sixteen-bit range takes two units. -/
def writeChar (c : Char) : List Char :=
  match shortEscape? c with
  | some e => ['\\', e]
  | none =>
    let code := c.toNat
    if 32 ≤ code ∧ code < 127 then [c]
    else if code < 0x10000 then escapeUnit code
    else
      escapeUnit (0xD800 + (code - 0x10000) / 0x400)
        ++ escapeUnit (0xDC00 + (code - 0x10000) % 0x400)

/-- A text between double quotes. -/
def writeText (s : String) : List Char := '"' :: s.toList.flatMap writeChar ++ ['"']

/-- The text of a floating-point number. -/
def writeFloat : Binary64 → List Char
  | .finite negative significand exponent => Binary64.finiteText negative significand exponent
  | .infinite negative => if negative then "-Infinity".toList else "Infinity".toList
  | .notANumber => "NaN".toList

/-- A whole number in decimal. -/
def writeInt (n : Int) : List Char := (toString n).toList

/-- Whether a key comes no later than another, character by character. -/
def keyLe (a b : String × List Char) : Bool := decide (a.1 ≤ b.1)

/-- Joins written parts with a comma and a blank. -/
def joined : List (List Char) → List Char
  | [] => []
  | [part] => part
  | part :: next :: rest => part ++ ',' :: ' ' :: joined (next :: rest)

/-- A written member. -/
def writeMember (member : String × List Char) : List Char :=
  writeText member.1 ++ ':' :: ' ' :: member.2

mutual

/-- The one-line form, members in the order of their keys. -/
def write : Json → List Char
  | .null => "null".toList
  | .bool b => if b then "true".toList else "false".toList
  | .int n => writeInt n
  | .float x => writeFloat x
  | .text s => writeText s
  | .array items => '[' :: joined (writeItems items) ++ [']']
  | .object members =>
    '{' :: joined (((writeMembers members).mergeSort keyLe).map writeMember) ++ ['}']

/-- Each item in the one-line form. -/
def writeItems : List Json → List (List Char)
  | [] => []
  | item :: rest => write item :: writeItems rest

/-- Each key with its value in the one-line form. -/
def writeMembers : List (String × Json) → List (String × List Char)
  | [] => []
  | (key, value) :: rest => (key, write value) :: writeMembers rest

end

/-- The one-line form as a string. -/
def line (value : Json) : String := String.ofList (write value)

/-! ## What is not written -/

/-- Members in the order of their keys. -/
def inKeyOrder {α : Type} (members : List (String × α)) : List (String × α) :=
  members.mergeSort fun a b => decide (a.1 ≤ b.1)

mutual

/-- A document with the members of every object in the order of their keys. -/
def arranged : Json → Json
  | .array items => .array (arrangedItems items)
  | .object members => .object (inKeyOrder (arrangedMembers members))
  | other => other

/-- Each item arranged. -/
def arrangedItems : List Json → List Json
  | [] => []
  | item :: rest => arranged item :: arrangedItems rest

/-- The value of each member arranged. -/
def arrangedMembers : List (String × Json) → List (String × Json)
  | [] => []
  | (key, value) :: rest => (key, arranged value) :: arrangedMembers rest

end

mutual

/-- What first stands in the way of writing a document as it stands, where only so many arrays and
objects may lie in one another. -/
def obstacle? (levels : Nat) : Json → Option Fault
  | .int n => if Text.Numeral.isWritable n then none else some (.value .unwritable)
  | .array items =>
    match levels with
    | 0 => some .tooDeep
    | inner + 1 => itemObstacle? inner items
  | .object members =>
    match levels with
    | 0 => some .tooDeep
    | inner + 1 => memberObstacle? inner members
  | _ => none

/-- What first stands in the way of writing items. -/
def itemObstacle? (levels : Nat) : List Json → Option Fault
  | [] => none
  | item :: rest => (obstacle? levels item).or (itemObstacle? levels rest)

/-- What first stands in the way of writing members. -/
def memberObstacle? (levels : Nat) : List (String × Json) → Option Fault
  | [] => none
  | (_, value) :: rest => (obstacle? levels value).or (memberObstacle? levels rest)

end

/-- Writes a document in the one-line form, if nothing stands in the way. -/
def dump (levels : Nat) (document : Json) : Outcome String :=
  match obstacle? levels (arranged document) with
  | some fault => .error fault
  | none => .ok (line document)

/-! ## The indented form -/

/-- A new line indented by a number of levels, two blanks each. -/
def newLine (level : Nat) : List Char := '\n' :: List.replicate (2 * level) ' '

/-- Joins parts with commas, each on a line of its own. -/
def joinedLines (level : Nat) : List (List Char) → List Char
  | [] => []
  | [part] => newLine level ++ part
  | part :: next :: rest => newLine level ++ part ++ ',' :: joinedLines level (next :: rest)

mutual

/-- The indented form at a level, members in the order in which they stand. -/
def writeIndented (level : Nat) : Json → List Char
  | .null => "null".toList
  | .bool b => if b then "true".toList else "false".toList
  | .int n => writeInt n
  | .float x => writeFloat x
  | .text s => writeText s
  | .array [] => ['[', ']']
  | .array (item :: rest) =>
    '[' :: joinedLines (level + 1) (indentedItems (level + 1) (item :: rest)) ++ newLine level
      ++ [']']
  | .object [] => ['{', '}']
  | .object (member :: rest) =>
    '{' :: joinedLines (level + 1) (indentedMembers (level + 1) (member :: rest)) ++ newLine level
      ++ ['}']

/-- Each item in the indented form. -/
def indentedItems (level : Nat) : List Json → List (List Char)
  | [] => []
  | item :: rest => writeIndented level item :: indentedItems level rest

/-- Each member in the indented form. -/
def indentedMembers (level : Nat) : List (String × Json) → List (List Char)
  | [] => []
  | (key, value) :: rest =>
    writeMember (key, writeIndented level value) :: indentedMembers level rest

end

/-- The indented form as a string. -/
def page (value : Json) : String := String.ofList (writeIndented 0 value)

end OracleIndexer.Json
