import OracleIndexer.Json.Basic
import OracleIndexer.Text.Quoted
set_option autoImplicit false

/-!
# Documents inside messages

The text of a document where a message, an identifier or a number reader needs one.  A text stands
for itself; inside arrays and objects, and where a message asks for it, it stands between quotes.
-/

namespace OracleIndexer

/-- The text of a floating-point number inside messages. -/
def Binary64.shown : Binary64 → List Char
  | .finite negative significand exponent => finiteText negative significand exponent
  | .infinite negative => if negative then ['-', 'i', 'n', 'f'] else ['i', 'n', 'f']
  | .notANumber => ['n', 'a', 'n']

namespace Json

mutual

/-- The text of a document with texts between quotes. -/
def literal : Json → List Char
  | .null => "None".toList
  | .bool b => if b then "True".toList else "False".toList
  | .int n => (toString n).toList
  | .float x => x.shown
  | .text s => Text.Quoted.encode s.toList
  | .array items => '[' :: literalItems items ++ [']']
  | .object members => '{' :: literalMembers members ++ ['}']

/-- Items with a comma and a blank between them. -/
def literalItems : List Json → List Char
  | [] => []
  | [item] => literal item
  | item :: next :: rest => literal item ++ ',' :: ' ' :: literalItems (next :: rest)

/-- Members with a comma and a blank between them. -/
def literalMembers : List (String × Json) → List Char
  | [] => []
  | [(key, value)] => Text.Quoted.encode key.toList ++ ':' :: ' ' :: literal value
  | (key, value) :: next :: rest =>
    Text.Quoted.encode key.toList ++ ':' :: ' ' :: literal value ++ ',' :: ' ' ::
      literalMembers (next :: rest)

end

/-- The text of a document with texts between quotes, as a string. -/
def literalText (value : Json) : String := String.ofList (literal value)

/-- The text of a document as a string, a text standing for itself. -/
def shownText : Json → String
  | .text s => s
  | value => literalText value

/-- The text of a fixed row of documents: round brackets, and a comma after a single item. -/
def rowText : List Json → String
  | [item] => String.ofList ('(' :: literal item ++ [',', ')'])
  | items => String.ofList ('(' :: literalItems items ++ [')'])

@[simp] theorem shownText_text (s : String) : shownText (.text s) = s := rfl

end Json

end OracleIndexer
