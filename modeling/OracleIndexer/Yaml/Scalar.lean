import OracleIndexer.Fault
import OracleIndexer.Text.Surrogate
import OracleIndexer.Yaml.Cursor
set_option autoImplicit false

/-!
# Scalar texts

How the text of a scalar is read in each of its styles: quoted, plain, and as a block of lines.  A
single line end inside quoted or plain text stands for a blank; each further one for a line feed.
-/

namespace OracleIndexer.Yaml.Scalar

/-- Text read, and the place after it. -/
abbrev Reading := List Char × Cursor

/-- What a line end and the empty lines after it fold into. -/
def fold (first : List Char) (more : List Char) : List Char :=
  if first ≠ ['\n'] then first ++ more
  else if more.isEmpty then [' ']
  else more

/-! ## Quoted text -/

/-- The character that an escape of one letter stands for. -/
def escaped? (c : Char) : Option Char :=
  match c with
  | '0' => some '\x00'
  | 'a' => some '\x07'
  | 'b' => some '\x08'
  | 't' => some '\t'
  | '\t' => some '\t'
  | 'n' => some '\n'
  | 'v' => some '\x0b'
  | 'f' => some '\x0c'
  | 'r' => some '\r'
  | 'e' => some '\x1b'
  | ' ' => some ' '
  | '"' => some '"'
  | '\\' => some '\\'
  | '/' => some '/'
  | 'N' => some '\u0085'
  | '_' => some '\u00a0'
  | 'L' => some '\u2028'
  | 'P' => some '\u2029'
  | _ => none

/-- The number of hexadecimal digits after an escape letter. -/
def escapeWidth? (c : Char) : Option Nat :=
  match c with
  | 'x' => some 2
  | 'u' => some 4
  | 'U' => some 8
  | _ => none

/-- The empty lines inside quotes; no document may start or end there. -/
def quotedBreaks : Nat → Cursor → Option Reading
  | 0, _ => none
  | fuel + 1, cursor =>
    if cursor.isDocumentMark then none
    else
      let cursor := cursor.dropWhile fun c => c == ' ' || c == '\t'
      match cursor.lineEnd with
      | ([], _) => some ([], cursor)
      | (first, next) => (quotedBreaks fuel next).map fun (more, after) => (first ++ more, after)

/-- The character of a code point, which must not lie beyond the last one. -/
def ofCode (code : Nat) : Outcome Char :=
  if 0x80000000 ≤ code then .error .tooLarge
  else if 0x10FFFF < code then .error (.value .noSuchCharacter)
  else match Text.charOf? code with
    | some c => .ok c
    | none => .error .loneHalf

/-- Text that must be there. -/
def required : Option Reading → Outcome Reading
  | some reading => .ok reading
  | none => .error .notYaml

/-- An escape after its backslash. -/
def escape (fuel : Nat) (cursor : Cursor) : Outcome Reading :=
  match cursor.rest with
  | [] => .error .notYaml
  | c :: _ =>
    match escaped? c with
    | some e => .ok ([e], cursor.step)
    | none =>
      match escapeWidth? c with
      | some width =>
        let digits := cursor.step.rest.take width
        match Text.HexWord.value? digits with
        | some code =>
          if digits.length = width then
            (ofCode code).map fun e => ([e], Cursor.skip (width + 1) cursor)
          else .error .notYaml
        | none => .error .notYaml
      | none =>
        if isBreak c then required (quotedBreaks fuel cursor.lineEnd.2) else .error .notYaml

/-- Blanks inside quotes, and the lines that may end after them. -/
def quotedGap (fuel : Nat) (cursor : Cursor) : Option Reading :=
  let (blanks, next) := cursor.takeWhile fun c => c == ' ' || c == '\t'
  match next.rest with
  | [] => none
  | c :: _ =>
    if isBreak c then
      let (first, next) := next.lineEnd
      (quotedBreaks fuel next).map fun (more, after) => (fold first more, after)
    else some (blanks, next)

/-- The text up to the closing quote. -/
def quoted (double : Bool) : Nat → Cursor → Outcome Reading
  | 0, _ => .error .notYaml
  | fuel + 1, cursor =>
    let goOn (piece : Outcome Reading) : Outcome Reading := do
      let (text, next) ← piece
      let (more, after) ← quoted double fuel next
      return (text ++ more, after)
    match cursor.rest with
    | [] => .error .notYaml
    | '"' :: _ =>
      if double then .ok ([], cursor.step) else goOn (.ok (['"'], cursor.step))
    | '\'' :: rest =>
      if double then goOn (.ok (['\''], cursor.step))
      else if rest.head? = some '\'' then goOn (.ok (['\''], Cursor.skip 2 cursor))
      else .ok ([], cursor.step)
    | '\\' :: _ =>
      if double then goOn (escape fuel cursor.step) else goOn (.ok (['\\'], cursor.step))
    | c :: _ =>
      if isGap c then goOn (required (quotedGap fuel cursor)) else goOn (.ok ([c], cursor.step))

/-! ## Plain text -/

/-- The brackets and the comma that end plain text inside a flow collection. -/
def isFlowMark (c : Char) : Bool :=
  c == ',' || c == '[' || c == ']' || c == '\x7b' || c == '\x7d'

/-- The characters of plain text up to a gap, or to a mark that ends it. -/
def plainRun (inFlow : Bool) : List Char → List Char
  | [] => []
  | c :: rest =>
    if isGap c then []
    else if c == ':' && (rest.head?.all isGap || (inFlow && rest.head?.any isFlowMark)) then []
    else if inFlow && (isFlowMark c || c == '?') then []
    else c :: plainRun inFlow rest

/-- The empty lines inside plain text; nothing when a document starts or ends there. -/
def plainBreaks : Nat → Cursor → Option (List Char) × Cursor
  | 0, cursor => (none, cursor)
  | fuel + 1, cursor =>
    match cursor.rest with
    | ' ' :: _ => plainBreaks fuel cursor.step
    | c :: _ =>
      if isBreak c then
        let (first, next) := cursor.lineEnd
        if next.isDocumentMark then (none, next)
        else
          let (more, after) := plainBreaks fuel next
          (more.map (first ++ ·), after)
      else (some [], cursor)
    | [] => (some [], cursor)

/-- The gap after a run of plain text, whether it ends a line, and the place after it. -/
def plainGap (fuel : Nat) (cursor : Cursor) : List Char × Bool × Cursor :=
  let (blanks, next) := cursor.takeWhile (· == ' ')
  match next.lineEnd with
  | ([], _) => (blanks, false, next)
  | (first, next) =>
    if next.isDocumentMark then ([], true, next)
    else
      let (more, after) := plainBreaks fuel next
      match more with
      | some more => (fold first more, true, after)
      | none => ([], true, after)

/-- Plain text: what was read so far comes after the gap before it.  Text that goes on after a line
end must be indented, outside flow collections.  Also tells whether the text ended at a line end. -/
def plain (inFlow : Bool) (indent : Int) :
    Nat → (gap : List Char) → (endsLine : Bool) → Cursor → List Char × Bool × Cursor
  | 0, _, endsLine, cursor => ([], endsLine, cursor)
  | fuel + 1, gap, endsLine, cursor =>
    if cursor.isAt 0 (· == '#') then ([], endsLine, cursor)
    else
      let run := plainRun inFlow cursor.rest
      if run.isEmpty then ([], endsLine, cursor)
      else
        let next := Cursor.skip run.length cursor
        let (nextGap, ends, after) := plainGap fuel next
        let stop := nextGap.isEmpty || after.isAt 0 (· == '#')
          || (!inFlow && decide ((after.column : Int) < indent))
        if stop then (gap ++ run, ends, after)
        else
          let (more, ends, after) := plain inFlow indent fuel nextGap ends after
          (gap ++ run ++ more, ends, after)

/-! ## Blocks of lines -/

/-- What becomes of the line ends at the end of a block. -/
inductive Chomping where
  | strip
  | clip
  | keep
  deriving DecidableEq, Repr, Inhabited

/-- The digit and the sign after a block's mark, in either order. -/
def blockHeader (cursor : Cursor) : Option (Chomping × Option Nat × Cursor) :=
  let sign? (c : Char) : Option Chomping :=
    if c = '+' then some .keep else if c = '-' then some .strip else none
  let digit? (c : Char) : Option Nat :=
    if Text.isDecimalDigit c then some (c.toNat - 48) else none
  let finish (chomping : Chomping) (indentation : Option Nat) (next : Cursor) :
      Option (Chomping × Option Nat × Cursor) :=
    if indentation = some 0 then none
    else if next.endsOr 0 (fun c => c == ' ' || isBreak c) then some (chomping, indentation, next)
    else none
  match (cursor.peek? 0).bind sign? with
  | some chomping =>
    match (cursor.peek? 1).bind digit? with
    | some n => finish chomping (some n) (Cursor.skip 2 cursor)
    | none => finish chomping none cursor.step
  | none =>
    match (cursor.peek? 0).bind digit? with
    | some n =>
      match (cursor.peek? 1).bind sign? with
      | some chomping => finish chomping (some n) (Cursor.skip 2 cursor)
      | none => finish .clip (some n) cursor.step
    | none => finish .clip none cursor

/-- The empty lines in front of a block, the greatest indentation seen, and the place after them. -/
def blockLead : Nat → (deepest : Nat) → Cursor → List Char × Nat × Cursor
  | 0, deepest, cursor => ([], deepest, cursor)
  | fuel + 1, deepest, cursor =>
    match cursor.rest with
    | ' ' :: _ => blockLead fuel (max deepest cursor.step.column) cursor.step
    | c :: _ =>
      if isBreak c then
        let (first, next) := cursor.lineEnd
        let (more, deepest, after) := blockLead fuel deepest next
        (first ++ more, deepest, after)
      else ([], deepest, cursor)
    | [] => ([], deepest, cursor)

/-- The place after blanks that stand left of an indentation. -/
def toIndent (indent : Nat) : Nat → Cursor → Cursor
  | 0, cursor => cursor
  | fuel + 1, cursor =>
    if decide (cursor.column < indent) && cursor.isAt 0 (· == ' ') then
      toIndent indent fuel cursor.step
    else cursor

/-- The empty lines between the lines of a block. -/
def blockBreaks (indent : Nat) : Nat → Cursor → List Char × Cursor
  | 0, cursor => ([], cursor)
  | fuel + 1, cursor =>
    let cursor := toIndent indent fuel cursor
    match cursor.lineEnd with
    | ([], _) => ([], cursor)
    | (first, next) =>
      let (more, after) := blockBreaks indent fuel next
      (first ++ more, after)

/-- The lines of a block from the indentation on, `breaks` standing before the first.  The result is
the text, the last line end, and the empty lines after it. -/
def blockLines (folded : Bool) (indent : Nat) :
    Nat → (breaks : List Char) → Cursor → List Char × List Char × List Char × Cursor
  | 0, breaks, cursor => ([], [], breaks, cursor)
  | fuel + 1, breaks, cursor =>
    if cursor.column = indent ∧ !cursor.rest.isEmpty then
      let isFlush (c : Cursor) : Bool := !c.isAt 0 fun c => c == ' ' || c == '\t'
      let flush := isFlush cursor
      let (line, next) := cursor.takeWhile fun c => !isBreak c
      let (ending, next) := next.lineEnd
      let (nextBreaks, next) := blockBreaks indent fuel next
      if next.column = indent ∧ !next.rest.isEmpty then
        let joint :=
          if folded && ending == ['\n'] && flush && isFlush next then
            if nextBreaks.isEmpty then [' '] else []
          else ending
        let (more, lastEnding, lastBreaks, after) := blockLines folded indent fuel nextBreaks next
        (breaks ++ line ++ joint ++ more, lastEnding, lastBreaks, after)
      else (breaks ++ line, ending, nextBreaks, next)
    else ([], [], breaks, cursor)

/-- A block of lines after its mark, inside a collection with an indentation. -/
def block (folded : Bool) (outer : Int) (fuel : Nat) (cursor : Cursor) : Option Reading :=
  match blockHeader cursor with
  | none => none
  | some (chomping, indentation, cursor) =>
    match cursor.restOfLine? with
    | none => none
    | some cursor =>
      let least := (max (outer + 1) 1).toNat
      let (breaks, indent, cursor) :=
        match indentation with
        | none =>
          let (breaks, deepest, after) := blockLead fuel 0 cursor
          (breaks, max least deepest, after)
        | some n =>
          let indent := least + n - 1
          let (breaks, after) := blockBreaks indent fuel cursor
          (breaks, indent, after)
      let (text, ending, lastBreaks, after) := blockLines folded indent fuel breaks cursor
      match chomping with
      | .strip => some (text, after)
      | .clip => some (text ++ ending, after)
      | .keep => some (text ++ ending ++ lastBreaks, after)

end OracleIndexer.Yaml.Scalar
