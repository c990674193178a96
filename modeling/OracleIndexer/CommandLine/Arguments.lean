import OracleIndexer.Indexer.Registry
set_option autoImplicit false

/-!
# Arguments

How the words of a command line are read.  A long option may be shortened as long as it stays
unique, and its value may follow an equals sign; short options may be written together behind one
dash.  A word that starts with a dash is a value only if it is a dash alone, a negative number, or
no option and holds a blank.
-/

namespace OracleIndexer.CommandLine

/-- What a run is asked for. -/
structure Arguments where
  indexer : Indexer
  input : Option String
  config : String
  printFilter : Bool
  verbose : Bool
  deriving Repr, Inhabited

/-- Why a command line is not run. -/
inductive Refusal where
  /-- the options are to be explained -/
  | help
  /-- the words do not fit the options -/
  | misuse
  deriving DecidableEq, Repr, Inhabited

/-- What an option is for. -/
inductive Switch where
  | help
  | indexer
  | input
  | config
  | printFilter
  | verbose
  deriving DecidableEq, Repr, Inhabited

namespace Switch

/-- Whether an option has a value. -/
def takesValue : Switch → Bool
  | .indexer | .input | .config => true
  | .help | .printFilter | .verbose => false

/-- The spellings of the options. -/
def spellings : List (String × Switch) :=
  [("-h", .help), ("--help", .help), ("--indexer", .indexer), ("--input", .input),
   ("--config", .config), ("--print-filter", .printFilter), ("-v", .verbose),
   ("--verbose", .verbose)]

/-- The option with a spelling. -/
def spelled? (word : List Char) : Option Switch :=
  (spellings.find? fun spelling => spelling.1.toList == word).map (·.2)

/-- The options with spellings that start like a word. -/
def startingWith (word : List Char) : List Switch :=
  (spellings.filter fun spelling => word.isPrefixOf spelling.1.toList).map (·.2)

end Switch

/-- A word of a command line. -/
inductive Word where
  | value (text : String)
  /-- an option, and what is attached to it: the short options written together with it, or else
  what follows its equals sign -/
  | option (switch : Switch) (together : Bool) (attached : Option (List Char))
  /-- a word that looks like an option and is none -/
  | stray
  deriving DecidableEq, Repr, Inhabited

namespace Word

/-- A word at its first equals sign. -/
def halves (word : List Char) : List Char × Option (List Char) :=
  match word.dropWhile (· != '=') with
  | [] => (word, none)
  | _ :: attached => (word.takeWhile (· != '='), some attached)

/-- Whether a word is a negative number: digits, or a point with digits after it. -/
def isNegativeNumber : List Char → Bool
  | '-' :: rest =>
    let isDigit (c : Char) : Bool := (Text.decimalValue? c).isSome
    let whole := rest.takeWhile isDigit
    match rest.drop whole.length with
    | [] => !whole.isEmpty
    | '.' :: fraction => !fraction.isEmpty && fraction.all isDigit
    | _ => false
  | _ => false

/-- The options that a word which spells none in full may stand for. -/
def candidates (word : List Char) : List Word :=
  match word with
  | '-' :: '-' :: _ =>
    let (start, attached) := halves word
    (Switch.startingWith start).map fun switch => .option switch false attached
  | '-' :: c :: attached =>
    (Switch.spelled? ['-', c]).toList.map fun switch => .option switch true (some attached)
  | _ => []

/-- What a word is by itself; nothing if it may stand for several options. -/
def ofChars (word : List Char) : Option Word :=
  let text := String.ofList word
  if word.head? != some '-' || word.length == 1 then some (.value text)
  else match Switch.spelled? word with
    | some switch => some (.option switch false none)
    | none =>
      let (start, attached) := halves word
      match attached.bind fun _ => Switch.spelled? start with
      | some switch => some (.option switch false attached)
      | none =>
        match candidates word with
        | [one] => some one
        | [] => some (if isNegativeNumber word || word.contains ' ' then .value text else .stray)
        | _ => none

/-- The words of a command line.  Behind two dashes alone every word is a value. -/
def ofStrings : List String → Option (List Word)
  | [] => some []
  | s :: rest =>
    if s = "--" then some (.stray :: rest.map .value)
    else
      match ofChars s.toList, ofStrings rest with
      | some word, some words => some (word :: words)
      | _, _ => none

end Word

namespace Arguments

/-- What has been read of a command line. -/
structure Draft where
  indexer : Option Indexer
  input : Option String
  config : String
  printFilter : Bool
  verbose : Bool
  /-- whether a word stood where no value was due -/
  hasStray : Bool
  deriving Inhabited

/-- Before the first word. -/
def Draft.start : Draft where
  indexer := none
  input := none
  config := "config.yaml"
  printFilter := false
  verbose := false
  hasStray := false

/-- Gives an option its value. -/
def Draft.store (draft : Draft) (value : String) : Switch → Except Refusal Draft
  | .indexer =>
    match Indexer.find value with
    | .ok indexer => .ok { draft with indexer := some indexer }
    | .error _ => .error .misuse
  | .input => .ok { draft with input := some value }
  | .config => .ok { draft with config := value }
  | .help | .printFilter | .verbose => .ok draft

/-- Sets an option without a value. -/
def Draft.turnOn (draft : Draft) : Switch → Except Refusal Draft
  | .help => .error .help
  | .printFilter => .ok { draft with printFilter := true }
  | .verbose => .ok { draft with verbose := true }
  | .indexer | .input | .config => .ok draft

/-- The short options behind one dash, up to a character that spells none, and whether there is
such a character. -/
def together : List Char → List Switch × Bool
  | [] => ([], false)
  | c :: rest =>
    match Switch.spelled? ['-', c] with
    | some switch =>
      let (more, hasStray) := together rest
      (switch :: more, hasStray)
    | none => ([], true)

/-- Sets an option without a value, and the short ones written together with it. -/
def Draft.turnOnAll (draft : Draft) (switch : Switch) (isTogether : Bool) :
    Option (List Char) → Except Refusal Draft
  | none => draft.turnOn switch
  | some attached =>
    if isTogether then do
      let (more, hasStray) := together attached
      let next ← (switch :: more).foldlM Draft.turnOn draft
      return { next with hasStray := next.hasStray || hasStray }
    else .error .misuse

/-- The arguments once every word is read: an indexer must be chosen, and no word be left over. -/
def Draft.finish (draft : Draft) : Except Refusal Arguments :=
  match draft.indexer with
  | some indexer =>
    if draft.hasStray then .error .misuse
    else .ok {
      indexer
      input := draft.input
      config := draft.config
      printFilter := draft.printFilter
      verbose := draft.verbose }
  | none => .error .misuse

/-- Reads the words of a command line in order. -/
def ofWords (draft : Draft) : List Word → Except Refusal Arguments
  | [] => draft.finish
  | .option switch isTogether attached :: rest => do
    if switch.takesValue then
      match attached, rest with
      | some chars, rest => ofWords (← draft.store (String.ofList chars) switch) rest
      | none, .value text :: rest => ofWords (← draft.store text switch) rest
      | none, _ => .error .misuse
    else ofWords (← draft.turnOnAll switch isTogether attached) rest
  | _ :: rest => ofWords { draft with hasStray := true } rest

/-- Reads a command line. -/
def read (words : List String) : Except Refusal Arguments :=
  match Word.ofStrings words with
  | some words => ofWords .start words
  | none => .error .misuse

end Arguments

end OracleIndexer.CommandLine
