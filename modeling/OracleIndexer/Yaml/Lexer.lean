import OracleIndexer.Yaml.Scalar
import OracleIndexer.Yaml.Tag
set_option autoImplicit false

/-!
# Tokens of a text

Cuts a YAML text into tokens.  Outside flow collections the columns of the tokens open and close
block collections.  A key need not be marked: where a token may start one, its place is kept, and a
colon behind it on the same line makes it a key after all.
-/

namespace OracleIndexer.Yaml

/-- The tokens of a text, up to the end or up to a fault that stands behind them. -/
structure Tokens where
  tokens : List Token
  fault : Option Fault
  deriving Inhabited

/-- A place where an unmarked key may have started. -/
structure KeyPlace where
  /-- the number of tokens before the key -/
  position : Nat
  /-- whether the text is in error if no colon follows -/
  required : Bool
  index : Nat
  line : Nat
  column : Nat
  deriving Repr, Inhabited

/-- The tokens found so far, the last one first, and what the next ones depend on. -/
structure Lexer where
  cursor : Cursor
  tokens : List Token
  /-- the columns of the open block collections, the innermost first -/
  indents : List Nat
  /-- the place of an unmarked key at this depth of flow collections -/
  keyPlace : Option KeyPlace
  /-- the places at the depths around it, the innermost first -/
  outerPlaces : List (Option KeyPlace)
  /-- whether an unmarked key may start here -/
  mayStartKey : Bool
  deriving Repr, Inhabited

namespace Lexer

/-- The state before the first token. -/
def start (text : List Char) : Lexer where
  cursor := .start text
  tokens := []
  indents := []
  keyPlace := none
  outerPlaces := []
  mayStartKey := true

/-- Whether the next token stands inside a flow collection. -/
def inFlow (lexer : Lexer) : Bool := !lexer.outerPlaces.isEmpty

/-- The column of the innermost block collection, or the one left of the first. -/
def indent (lexer : Lexer) : Int :=
  match lexer.indents with
  | column :: _ => column
  | [] => -1

/-- The most characters between the start of an unmarked key and its colon. -/
def keyReach : Nat := 1024

/-- Whether an unmarked key can no longer end here. -/
def isPast (cursor : Cursor) (place : KeyPlace) : Bool :=
  place.line != cursor.line || decide (keyReach < cursor.index - place.index)

/-- Gives up a place that can no longer hold a key; nothing if there had to be one. -/
def refreshPlace (cursor : Cursor) : Option KeyPlace → Option (Option KeyPlace)
  | none => some none
  | some place =>
    if isPast cursor place then if place.required then none else some none
    else some (some place)

/-- Gives up the places that can no longer hold a key. -/
def refresh (lexer : Lexer) : Option Lexer :=
  match refreshPlace lexer.cursor lexer.keyPlace,
      lexer.outerPlaces.mapM (refreshPlace lexer.cursor) with
  | some keyPlace, some outerPlaces => some { lexer with keyPlace, outerPlaces }
  | _, _ => none

/-- Gives up the place at this depth. -/
def forgetPlace (lexer : Lexer) : Option Lexer :=
  if lexer.keyPlace.any (·.required) then none else some { lexer with keyPlace := none }

/-- Keeps this place if an unmarked key may start here. -/
def keepPlace (lexer : Lexer) : Option Lexer :=
  if lexer.mayStartKey then
    lexer.forgetPlace.map fun l =>
      { l with keyPlace := some {
          position := l.tokens.length
          required := !l.inFlow && l.indent == (l.cursor.column : Int)
          index := l.cursor.index
          line := l.cursor.line
          column := l.cursor.column } }
  else some lexer

/-- Closes the block collections to the right of a column. -/
def closeBlocks (column : Int) (lexer : Lexer) : Lexer :=
  if lexer.inFlow then lexer
  else
    let closed := lexer.indents.takeWhile fun (indent : Nat) => decide (column < (indent : Int))
    { lexer with
      indents := lexer.indents.drop closed.length
      tokens := closed.map (fun _ => .blockEnd) ++ lexer.tokens }

/-- Opens a block collection at a column right of the innermost one, `later` tokens standing behind
its start. -/
def openBlock (column later : Nat) (token : Token) (lexer : Lexer) : Lexer :=
  if lexer.indent < (column : Int) then
    { lexer with
      indents := column :: lexer.indents
      tokens := lexer.tokens.insertIdx later token }
  else lexer

/-- Adds a token that ends at a place. -/
def push (token : Token) (next : Cursor) (lexer : Lexer) : Lexer :=
  { lexer with tokens := token :: lexer.tokens, cursor := next }

/-- Skips blanks, comments and line ends.  A line may start with an unmarked key. -/
def skipGaps : Nat → Lexer → Lexer
  | 0, lexer => lexer
  | fuel + 1, lexer =>
    let next := lexer.cursor.dropWhile (· == ' ')
    let next := if next.isAt 0 (· == '#') then next.dropWhile fun c => !isBreak c else next
    if next.isAt 0 isBreak then
      skipGaps fuel
        { lexer with cursor := next.lineEnd.2, mayStartKey := lexer.mayStartKey || !lexer.inFlow }
    else { lexer with cursor := next }

/-- A token that closes all blocks: a directive, or the start or end of a document. -/
def atMargin (token : Token) (next : Cursor) (lexer : Lexer) : Option Lexer :=
  (lexer.closeBlocks (-1)).forgetPlace.map fun l =>
    { l.push token next with mayStartKey := false }

/-- A token that may be an unmarked key, or start one. -/
def atKey (token : Token) (next : Cursor) (lexer : Lexer) : Option Lexer :=
  lexer.keepPlace.map fun l => { l.push token next with mayStartKey := false }

/-- The start of a flow collection. -/
def openFlow (token : Token) (lexer : Lexer) : Option Lexer :=
  lexer.keepPlace.map fun l =>
    { l.push token l.cursor.step with
      keyPlace := none
      outerPlaces := l.keyPlace :: l.outerPlaces
      mayStartKey := true }

/-- The end of a flow collection. -/
def closeFlow (token : Token) (lexer : Lexer) : Option Lexer :=
  match lexer.outerPlaces with
  | [] => none
  | place :: outerPlaces =>
    some { lexer.push token lexer.cursor.step with
      keyPlace := place, outerPlaces, mayStartKey := false }

/-- The comma between the entries of a flow collection. -/
def flowComma (lexer : Lexer) : Option Lexer :=
  lexer.forgetPlace.map fun l =>
    { l.push .flowEntry l.cursor.step with mayStartKey := true }

/-- The dash before an entry of a block sequence. -/
def blockDash (lexer : Lexer) : Option Lexer :=
  if lexer.inFlow || lexer.mayStartKey then
    let opened :=
      if lexer.inFlow then lexer else lexer.openBlock lexer.cursor.column 0 .blockSequence
    opened.forgetPlace.map fun l =>
      { l.push .blockEntry l.cursor.step with mayStartKey := true }
  else none

/-- The mark of a key, or of a value without an unmarked key, which opens a block mapping. -/
def mappingMark (token : Token) (lexer : Lexer) : Option Lexer :=
  if lexer.inFlow || lexer.mayStartKey then
    let opened :=
      if lexer.inFlow then lexer else lexer.openBlock lexer.cursor.column 0 .blockMapping
    opened.forgetPlace.map fun l =>
      { l.push token l.cursor.step with mayStartKey := !l.inFlow }
  else none

/-- The colon of a value.  A key place makes what stands there a key. -/
def valueMark (lexer : Lexer) : Option Lexer :=
  match lexer.keyPlace with
  | none => lexer.mappingMark .value
  | some place =>
    let later := lexer.tokens.length - place.position
    let keyed := { lexer with keyPlace := none, tokens := lexer.tokens.insertIdx later .key }
    let opened :=
      if lexer.inFlow then keyed else keyed.openBlock place.column (later + 1) .blockMapping
    some { opened.push .value opened.cursor.step with mayStartKey := false }

/-- An anchor or an alias. -/
def named (token : String → Token) (lexer : Lexer) : Option Lexer :=
  match Tag.anchor? lexer.cursor.step with
  | some (name, next) => lexer.atKey (token name) next
  | none => none

/-- A block of lines. -/
def blockText (folded : Bool) (fuel : Nat) (lexer : Lexer) : Option Lexer :=
  match lexer.forgetPlace, Scalar.block folded lexer.indent fuel lexer.cursor.step with
  | some l, some (text, next) =>
    some { l.push (.scalar .quoted (String.ofList text)) next with mayStartKey := true }
  | _, _ => none

/-- Quoted text.  An escape in it may stand for no character. -/
def quotedText (double : Bool) (fuel : Nat) (lexer : Lexer) : Outcome Lexer :=
  match lexer.keepPlace with
  | some l => do
    let (text, next) ← Scalar.quoted double fuel l.cursor.step
    return { l.push (.scalar .quoted (String.ofList text)) next with mayStartKey := false }
  | none => .error .notYaml

/-- Whether plain text may start here. -/
def startsPlain (lexer : Lexer) : Bool :=
  match lexer.cursor.rest with
  | [] => false
  | c :: rest =>
    (!isGap c && !"-?:,[]\x7b\x7d#&*!|>'\"%@`".toList.contains c)
      || (!rest.head?.all isGap && (c == '-' || (!lexer.inFlow && (c == '?' || c == ':'))))

/-- Plain text. -/
def plainText (fuel : Nat) (lexer : Lexer) : Option Lexer :=
  if lexer.startsPlain then
    lexer.keepPlace.map fun l =>
      let (text, endsLine, next) := Scalar.plain l.inFlow (l.indent + 1) fuel [] false l.cursor
      { l.push (.scalar .plain (String.ofList text)) next with mayStartKey := endsLine }
  else none

/-- Whether a mark that needs a gap behind it outside flow collections stands here. -/
def isSpaced (lexer : Lexer) : Bool := lexer.inFlow || lexer.cursor.endsOr 1 isGap

/-- One token, which is neither gap nor quoted text. -/
def unquotedToken (fuel : Nat) (lexer : Lexer) (c : Char) : Option Lexer :=
  let cursor := lexer.cursor
  if c == '%' && cursor.column == 0 then
    match Tag.directive? cursor.step with
    | some (token, next) => lexer.atMargin token next
    | none => none
  else if cursor.column == 0 && cursor.isMark ['-', '-', '-'] then
    lexer.atMargin .documentStart (Cursor.skip 3 cursor)
  else if cursor.column == 0 && cursor.isMark ['.', '.', '.'] then
    lexer.atMargin .documentEnd (Cursor.skip 3 cursor)
  else if c == '[' then lexer.openFlow .openSequence
  else if c == '\x7b' then lexer.openFlow .openMapping
  else if c == ']' then lexer.closeFlow .closeSequence
  else if c == '\x7d' then lexer.closeFlow .closeMapping
  else if c == ',' then lexer.flowComma
  else if c == '-' && cursor.endsOr 1 isGap then lexer.blockDash
  else if c == '?' && lexer.isSpaced then lexer.mappingMark .key
  else if c == ':' && lexer.isSpaced then lexer.valueMark
  else if c == '*' then lexer.named .alias
  else if c == '&' then lexer.named .anchor
  else if c == '!' then
    match Tag.tag? cursor with
    | some (token, next) => lexer.atKey token next
    | none => none
  else if c == '|' && !lexer.inFlow then lexer.blockText false fuel
  else if c == '>' && !lexer.inFlow then lexer.blockText true fuel
  else lexer.plainText fuel

/-- One token, which is no gap. -/
def token (fuel : Nat) (lexer : Lexer) (c : Char) : Outcome Lexer :=
  if c == '\'' then lexer.quotedText false fuel
  else if c == '"' then lexer.quotedText true fuel
  else match lexer.unquotedToken fuel c with
    | some next => .ok next
    | none => .error .notYaml

/-- The tokens in front of the first place where an unmarked key may still turn up: no later part of
the text can change them. -/
def settled (lexer : Lexer) : List Token :=
  let alive := (lexer.keyPlace :: lexer.outerPlaces).filterMap fun place =>
    place.filter fun place => !isPast lexer.cursor place
  lexer.tokens.reverse.take (alive.foldl (fun n place => min n place.position) lexer.tokens.length)

/-- The next token of the rest of a text, gaps being skipped, or all its tokens if it has ended. -/
def next (textFuel : Nat) (lexer : Lexer) : Outcome (Lexer ⊕ List Token) :=
  match (lexer.skipGaps textFuel).refresh with
  | none => .error .notYaml
  | some lexer =>
    let lexer := lexer.closeBlocks lexer.cursor.column
    match lexer.cursor.rest with
    | [] =>
      match (lexer.closeBlocks (-1)).forgetPlace with
      | some l => .ok (.inr l.tokens.reverse)
      | none => .error .notYaml
    | c :: _ => (lexer.token textFuel c).map .inl

/-- The tokens of the rest of a text, in order. -/
def run (textFuel : Nat) : Nat → Lexer → Tokens
  | 0, lexer => ⟨lexer.settled, some .notYaml⟩
  | fuel + 1, lexer =>
    match lexer.next textFuel with
    | .ok (.inl next) => run textFuel fuel next
    | .ok (.inr tokens) => ⟨tokens, none⟩
    | .error fault => ⟨lexer.settled, some fault⟩

end Lexer

/-- A character that may stand in a text. -/
def isTextChar (c : Char) : Bool :=
  c == '\t' || c == '\n' || c == '\r' || decide (0x20 ≤ c.toNat ∧ c.toNat ≤ 0x7E)
    || c.toNat == 0x85 || decide (0xA0 ≤ c.toNat ∧ c.toNat ≤ 0xD7FF)
    || decide (0xE000 ≤ c.toNat ∧ c.toNat ≤ 0xFFFD) || decide (0x10000 ≤ c.toNat)

/-- The tokens of a text.  Every token takes at least one character, and a mark of byte order may
stand in front. -/
def Tokens.ofText (text : List Char) : Tokens :=
  if text.all isTextChar then
    let text := match text with
      | c :: rest => if c.toNat == 0xFEFF then rest else c :: rest
      | [] => []
    Lexer.run (2 * text.length + 2) (text.length + 1) (.start text)
  else ⟨[], some .notYaml⟩

end OracleIndexer.Yaml
