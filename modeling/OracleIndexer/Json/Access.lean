import OracleIndexer.Fault
set_option autoImplicit false

/-!
# Reaching into documents

How records are taken out of documents whose shape nobody has checked.  A member that is missing,
and a part that is null, false, zero or empty, count as absent; a part of any other kind than the
one needed is refused.
-/

namespace OracleIndexer.Json

/-- The value of a member, null when there is none. -/
def memberOf (members : List (String × Json)) (key : String) : Json :=
  (member? members key).getD .null

/-- Whether a text occurs inside another. -/
def occursIn (part : List Char) : List Char → Bool
  | [] => part.isEmpty
  | c :: rest => part.isPrefixOf (c :: rest) || occursIn part rest

/-- Whether a document is a given text. -/
def isText (s : String) : Json → Bool
  | .text t => t == s
  | _ => false

/-- The members of an object that has a key.  A document without the key is refused as `absent`; one
that holds the key without being an object is of the wrong kind. -/
def membersWith (key : String) (absent : Fault) : Json → Outcome (List (String × Json))
  | .object members => if (member? members key).isSome then .ok members else .error absent
  | .array items => .error (if items.any (isText key) then .wrongKind else absent)
  | .text s => .error (if occursIn key.toList s.toList then .wrongKind else absent)
  | other => .error (if other.isGiven then .wrongKind else absent)

/-- The value of a member of a document that may be absent itself. -/
def part (document : Json) (key : String) : Outcome Json :=
  match document with
  | .object members => .ok (memberOf members key)
  | other => if other.isGiven then .error .wrongKind else .ok .null

/-- The parts of a document that is gone through one by one: the items of an array, the characters
of a text, the keys of an object. -/
def items : Json → Outcome (List Json)
  | .array items => .ok items
  | .text s => .ok (s.toList.map fun c => .text (String.ofList [c]))
  | .object members => .ok (members.map fun m => .text m.1)
  | _ => .error .wrongKind

/-- The parts of a list that may be absent. -/
def entries (document : Json) : Outcome (List Json) :=
  if document.isGiven then document.items else .ok []

/-- The first of two documents if it is given, else the second. -/
def orElse (first second : Json) : Json := if first.isGiven then first else second

end OracleIndexer.Json
