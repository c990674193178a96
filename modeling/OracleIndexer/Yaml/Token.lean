set_option autoImplicit false

/-!
# Tokens

The pieces of a YAML text.  The starts and ends of block collections, which only indentation tells,
are tokens too.
-/

namespace OracleIndexer.Yaml

/-- How a scalar was written. -/
inductive Style where
  | plain
  | quoted
  deriving DecidableEq, Repr, Inhabited

/-- A piece of a YAML text. -/
inductive Token where
  /-- the version directive -/
  | version (major : Nat)
  /-- a directive that gives a tag handle its expansion -/
  | handle (name expansion : String)
  /-- a directive of no known kind -/
  | directive
  | documentStart
  | documentEnd
  | blockSequence
  | blockMapping
  | blockEnd
  | openSequence
  | closeSequence
  | openMapping
  | closeMapping
  | blockEntry
  | flowEntry
  | key
  | value
  | alias (name : String)
  | anchor (name : String)
  /-- a tag: its handle, if it has one, and what follows the handle -/
  | tag (handle : Option String) (suffix : String)
  | scalar (style : Style) (text : String)
  deriving DecidableEq, Repr, Inhabited

end OracleIndexer.Yaml
