import OracleIndexer.Yaml.Instant
import OracleIndexer.Yaml.Number
set_option autoImplicit false

/-!
# Kinds of nodes

What a node stands for.  A tag may say it; otherwise plain text is taken for what it looks like, and
quoted text for text.
-/

namespace OracleIndexer.Yaml

/-- What a node stands for. -/
inductive Kind where
  | null
  | bool
  | int
  | float
  | instant
  | binary
  | text
  | sequence
  | mapping
  | set
  /-- a sequence of entries -/
  | pairs
  /-- a key whose value's entries are merged into the mapping -/
  | merge
  /-- a key for the plain value of a mapping -/
  | plainValue
  | unknown
  deriving DecidableEq, Repr, Inhabited

namespace Kind

/-- What the tags of the standard kinds start with. -/
def standardTag : String := "tag:yaml.org,2002:"

/-- The standard kinds by the ends of their tags. -/
def standard : List (String × Kind) :=
  [("null", .null), ("bool", .bool), ("int", .int), ("float", .float), ("timestamp", .instant),
   ("str", .text), ("seq", .sequence), ("map", .mapping), ("merge", .merge),
   ("value", .plainValue), ("binary", .binary), ("omap", .pairs), ("pairs", .pairs),
   ("set", .set)]

/-- The kind that a tag names. -/
def ofTag (tag : String) : Kind :=
  ((standard.find? fun entry => standardTag ++ entry.1 == tag).map (·.2)).getD .unknown

/-- The words for true, each also with its first letter or all letters in upper case. -/
def trueWords : List String :=
  ["yes", "Yes", "YES", "true", "True", "TRUE", "on", "On", "ON"]

/-- The words for false, each also with its first letter or all letters in upper case. -/
def falseWords : List String :=
  ["no", "No", "NO", "false", "False", "FALSE", "off", "Off", "OFF"]

/-- The words for an absent value. -/
def nullWords : List String := ["", "~", "null", "Null", "NULL"]

/-- The texts of which each is a mark of its own. -/
def markWords : List String := ["!", "&", "*"]

/-- What a text without a line end looks like. -/
def ofLine (s : String) : Kind :=
  let chars := s.toList
  if trueWords.contains s || falseWords.contains s then .bool
  else if Number.isPointNumber chars then .float
  else if Number.isWhole chars then .int
  else if s = "<<" then .merge
  else if nullWords.contains s then .null
  else if Instant.isPlain chars then .instant
  else if s = "=" then .plainValue
  else if markWords.contains s then .unknown
  else .text

/-- A text without one line feed at its end. -/
def withoutLineEnd (text : List Char) : List Char :=
  if text.getLast? = some '\n' then text.dropLast else text

/-- What plain text looks like.  A line feed at its end does not count, unless there is nothing
else. -/
def ofPlain (s : String) : Kind :=
  if s = "\n" then .text else ofLine (String.ofList (withoutLineEnd s.toList))

end Kind

end OracleIndexer.Yaml
