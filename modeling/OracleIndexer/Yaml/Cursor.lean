import OracleIndexer.Text.HexWord
set_option autoImplicit false

/-!
# Cursors

A place in a YAML text: what is still to be read, and how far from the start and from the start of
the line it stands.
-/

namespace OracleIndexer.Yaml

/-- A place in a text. -/
structure Cursor where
  rest : List Char
  index : Nat
  line : Nat
  column : Nat
  deriving Repr, Inhabited

/-- The characters that end a line. -/
def isBreak (c : Char) : Bool :=
  c == '\n' || c == '\r' || c.toNat == 0x85 || c.toNat == 0x2028 || c.toNat == 0x2029

/-- A blank, a tab, or the end of a line. -/
def isGap (c : Char) : Bool := c == ' ' || c == '\t' || isBreak c

namespace Cursor

/-- The start of a text. -/
def start (text : List Char) : Cursor := ⟨text, 0, 0, 0⟩

/-- The character `n` places ahead, if the text goes that far. -/
def peek? (cursor : Cursor) (n : Nat) : Option Char := cursor.rest[n]?

/-- Whether the character `n` places ahead is of a class, or the text ends there. -/
def endsOr (cursor : Cursor) (n : Nat) (p : Char → Bool) : Bool := (cursor.peek? n).all p

/-- Whether the character `n` places ahead is there and of a class. -/
def isAt (cursor : Cursor) (n : Nat) (p : Char → Bool) : Bool := (cursor.peek? n).any p

/-- The place after one character.  A line starts after a break, and the first half of a
two-character break ends nothing. -/
def step (cursor : Cursor) : Cursor :=
  match cursor.rest with
  | [] => cursor
  | c :: rest =>
    if isBreak c && !(c == '\r' && rest.head? == some '\n') then
      ⟨rest, cursor.index + 1, cursor.line + 1, 0⟩
    else if c.toNat == 0xFEFF then ⟨rest, cursor.index + 1, cursor.line, cursor.column⟩
    else ⟨rest, cursor.index + 1, cursor.line, cursor.column + 1⟩

/-- The place after a number of characters. -/
def skip : Nat → Cursor → Cursor
  | 0, cursor => cursor
  | n + 1, cursor => skip n cursor.step

/-- The characters of a class from here on, and the place after them. -/
def takeWhile (cursor : Cursor) (p : Char → Bool) : List Char × Cursor :=
  let taken := cursor.rest.takeWhile p
  (taken, skip taken.length cursor)

/-- The place after the characters of a class. -/
def dropWhile (cursor : Cursor) (p : Char → Bool) : Cursor := (cursor.takeWhile p).2

/-- What a line end here stands for, and the place after it; nothing if no line ends here. -/
def lineEnd (cursor : Cursor) : List Char × Cursor :=
  match cursor.rest with
  | '\r' :: '\n' :: _ => (['\n'], skip 2 cursor)
  | c :: _ =>
    if c == '\n' || c == '\r' || c.toNat == 0x85 then (['\n'], cursor.step)
    else if isBreak c then ([c], cursor.step)
    else ([], cursor)
  | [] => ([], cursor)

/-- The rest of a line that may hold blanks and a comment only. -/
def restOfLine? (cursor : Cursor) : Option Cursor :=
  let next := cursor.dropWhile (· == ' ')
  let next := if next.isAt 0 (· == '#') then next.dropWhile fun c => !isBreak c else next
  if next.endsOr 0 isBreak then some next.lineEnd.2 else none

/-- Whether a mark of three characters stands here alone. -/
def isMark (cursor : Cursor) (mark : List Char) : Bool :=
  cursor.rest.take 3 == mark && cursor.endsOr 3 isGap

/-- Whether the start or the end of a document is marked here. -/
def isDocumentMark (cursor : Cursor) : Bool :=
  cursor.isMark ['-', '-', '-'] || cursor.isMark ['.', '.', '.']

end Cursor

end OracleIndexer.Yaml
