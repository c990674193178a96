import OracleIndexer.Binary64
set_option autoImplicit false

/-!
# Documents

The dynamic values that batches, events and outputs are made of.  Whole numbers are unbounded;
an object keeps its members in the order they were written.
-/

namespace OracleIndexer

/-- A document. -/
inductive Json where
  | null
  | bool (value : Bool)
  | int (value : Int)
  | float (value : Binary64)
  | text (value : String)
  | array (items : List Json)
  | object (members : List (String × Json))
  deriving Repr, Inhabited

namespace Json

/-- The name of a document's kind, as messages give it. -/
def kindName : Json → String
  | .null => "NoneType"
  | .bool _ => "bool"
  | .int _ => "int"
  | .float _ => "float"
  | .text _ => "str"
  | .array _ => "list"
  | .object _ => "dict"

/-- Whether a document counts as given: not null, false, zero or empty. -/
def isGiven : Json → Bool
  | .null => false
  | .bool b => b
  | .int n => n != 0
  | .float x => !x.isZero
  | .text s => !s.isEmpty
  | .array items => !items.isEmpty
  | .object members => !members.isEmpty

/-- The member of an object under a key. -/
def member? (members : List (String × Json)) (key : String) : Option Json :=
  members.lookup key

/-- Puts a member into an object: in place of the one with its key, or else at the end. -/
def putMember {α : Type} (key : String) (value : α) :
    List (String × α) → List (String × α)
  | [] => [(key, value)]
  | (k, v) :: rest =>
    if k = key then (k, value) :: rest else (k, v) :: putMember key value rest

/-- Members in the order first written, each key with its last value. -/
def objectOf (members : List (String × Json)) : Json :=
  .object (members.foldl (fun done m => putMember m.1 m.2 done) [])

/-- How many arrays and objects may lie in one another where a program reads or writes a document.
What the calls that lead there leave of the stack decides it; this is what they leave at least when
the program is run by itself. -/
def levels : Nat := 990

@[simp] theorem isGiven_text (s : String) : isGiven (.text s) = !s.isEmpty := rfl

end Json

end OracleIndexer
