import OracleIndexer.Text.Blank
set_option autoImplicit false

/-!
# Lines

Line ends in files, and the division of a text into lines.
-/

namespace OracleIndexer.Text

/-- Text of a file with every line end, be it one or two characters, as one line feed. -/
def withLineFeeds : List Char → List Char
  | [] => []
  | '\r' :: '\n' :: rest => '\n' :: withLineFeeds rest
  | c :: rest => (if c = '\r' then '\n' else c) :: withLineFeeds rest

/-- The characters that end a line. -/
def isLineEnd (c : Char) : Bool :=
  decide (10 ≤ c.toNat ∧ c.toNat ≤ 13) || decide (0x1C ≤ c.toNat ∧ c.toNat ≤ 0x1E)
    || c.toNat == 0x85 || c.toNat == 0x2028 || c.toNat == 0x2029

/-- The lines of a text, `line` being the part of the current one already read, last character
first.  A carriage return and the line feed after it end one line. -/
def linesFrom (line : List Char) : List Char → List (List Char)
  | [] => if line.isEmpty then [] else [line.reverse]
  | '\r' :: '\n' :: rest => line.reverse :: linesFrom [] rest
  | c :: rest =>
    if isLineEnd c then line.reverse :: linesFrom [] rest else linesFrom (c :: line) rest

/-- The lines of a text without their ends; no line follows the last end. -/
def lines (text : List Char) : List (List Char) := linesFrom [] text

/-- Whether a line holds anything but blanks. -/
def hasInk (line : List Char) : Bool := line.any fun c => !isBlank c

end OracleIndexer.Text
