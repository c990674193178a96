import OracleIndexer.Yaml.Cursor
import OracleIndexer.Yaml.Token
set_option autoImplicit false

/-!
# Names, tags and directives

The texts that name things: anchors and aliases, tags with their handles, and the directives at the
head of a document.
-/

namespace OracleIndexer.Yaml.Tag

/-- A character of a name. -/
def isNameChar (c : Char) : Bool := c.isAlphanum || c == '-' || c == '_'

/-- A character of a tag, the escapes of single bytes aside. -/
def isTagChar (c : Char) : Bool :=
  c.isAlphanum || "-;/?:@&=+$,_.!~*'()[]".toList.contains c

/-- A blank or the end of a line. -/
def isSpacing (c : Char) : Bool := c == ' ' || isBreak c

/-- A name and the place after it, if there is one here. -/
def name? (cursor : Cursor) : Option (List Char × Cursor) :=
  match cursor.takeWhile isNameChar with
  | ([], _) => none
  | (name, next) => some (name, next)

/-- The name of an anchor or an alias after its mark. -/
def anchor? (cursor : Cursor) : Option (String × Cursor) :=
  match name? cursor with
  | some (name, next) =>
    if next.endsOr 0 fun c => isGap c || "?:,]\x7d%@`".toList.contains c then
      some (String.ofList name, next)
    else none
  | none => none

/-- Bytes each written as a percent sign and two hexadecimal digits. -/
def escapedBytes : Nat → Cursor → Option (List UInt8 × Cursor)
  | 0, _ => none
  | fuel + 1, cursor =>
    match cursor.rest with
    | '%' :: high :: low :: _ =>
      match Text.HexWord.value? [high, low] with
      | some byte =>
        (escapedBytes fuel (Cursor.skip 3 cursor)).map fun (more, after) =>
          (UInt8.ofNat byte :: more, after)
      | none => none
    | '%' :: _ => none
    | _ => some ([], cursor)

/-- The characters of a tag, escaped bytes standing for the text they encode. -/
def tagChars : Nat → Cursor → Option (List Char × Cursor)
  | 0, _ => none
  | fuel + 1, cursor =>
    let (plain, next) := cursor.takeWhile isTagChar
    if next.isAt 0 (· == '%') then
      match escapedBytes fuel next with
      | none => none
      | some (bytes, next) =>
        match String.fromUTF8? ⟨bytes.toArray⟩ with
        | none => none
        | some text =>
          (tagChars fuel next).map fun (more, after) => (plain ++ text.toList ++ more, after)
    else some (plain, next)

/-- The characters of a tag, of which there must be some. -/
def suffix? (cursor : Cursor) : Option (String × Cursor) :=
  match tagChars (cursor.rest.length + 1) cursor with
  | some ([], _) => none
  | some (chars, next) => some (String.ofList chars, next)
  | none => none

/-- A handle: one exclamation mark alone before a blank, or a name between two. -/
def handle? (cursor : Cursor) : Option (String × Cursor) :=
  match cursor.rest with
  | '!' :: ' ' :: _ => some ("!", cursor.step)
  | '!' :: rest =>
    let name := rest.takeWhile isNameChar
    if (rest.drop name.length).head? = some '!' then
      some (String.ofList ('!' :: name ++ ['!']), Cursor.skip (name.length + 2) cursor)
    else none
  | _ => none

/-- Whether an exclamation mark follows before the next blank. -/
def hasHandle (text : List Char) : Bool :=
  (text.takeWhile fun c => !isSpacing c).contains '!'

/-- The parts of a tag at its exclamation mark. -/
def parts? (cursor : Cursor) : Option (Option String × String × Cursor) :=
  if cursor.isAt 1 (· == '<') then
    match suffix? (Cursor.skip 2 cursor) with
    | some (suffix, next) =>
      if next.isAt 0 (· == '>') then some (none, suffix, next.step) else none
    | none => none
  else if cursor.endsOr 1 isGap then some (none, "!", cursor.step)
  else if hasHandle (cursor.rest.drop 1) then
    match handle? cursor with
    | some (handle, next) => (suffix? next).map fun (suffix, after) => (some handle, suffix, after)
    | none => none
  else (suffix? cursor.step).map fun (suffix, after) => (some "!", suffix, after)

/-- A tag at its exclamation mark; a blank or the end of the text must follow. -/
def tag? (cursor : Cursor) : Option (Token × Cursor) :=
  match parts? cursor with
  | some (handle, suffix, next) =>
    if next.endsOr 0 isSpacing then some (.tag handle suffix, next) else none
  | none => none

/-- A whole number and the place after it. -/
def digits? (cursor : Cursor) : Option (Nat × Cursor) :=
  match cursor.takeWhile Text.isDecimalDigit with
  | ([], _) => none
  | (digits, next) => (Text.HexWord.valueFrom 10 0 digits).map fun n => (n, next)

/-- The version after the name of its directive. -/
def version? (cursor : Cursor) : Option (Token × Cursor) :=
  match digits? (cursor.dropWhile (· == ' ')) with
  | some (major, next) =>
    if next.isAt 0 (· == '.') then
      match digits? next.step with
      | some (_, after) =>
        if after.endsOr 0 isSpacing then some (.version major, after) else none
      | none => none
    else none
  | none => none

/-- A handle and its expansion after the name of their directive. -/
def expansion? (cursor : Cursor) : Option (Token × Cursor) :=
  match handle? (cursor.dropWhile (· == ' ')) with
  | some (handle, next) =>
    if next.isAt 0 (· == ' ') then
      match suffix? (next.dropWhile (· == ' ')) with
      | some (expansion, after) =>
        if after.endsOr 0 isSpacing then some (.handle handle expansion, after) else none
      | none => none
    else none
  | none => none

/-- A directive after its percent sign. -/
def directive? (cursor : Cursor) : Option (Token × Cursor) :=
  match name? cursor with
  | none => none
  | some (name, next) =>
    if next.endsOr 0 isSpacing then
      let read :=
        if name = ['Y', 'A', 'M', 'L'] then version? next
        else if name = ['T', 'A', 'G'] then expansion? next
        else some (.directive, next.dropWhile fun c => !isBreak c)
      match read with
      | some (token, after) => after.restOfLine?.map fun last => (token, last)
      | none => none
    else none

end OracleIndexer.Yaml.Tag
