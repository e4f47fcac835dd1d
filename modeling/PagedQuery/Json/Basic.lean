/-!
# JSON documents

A document as it was written, as far as a reader can tell: integers apart from other
numbers, and the members of an object in order and with repetitions.

The text of a string is missing if its escapes name half of a surrogate pair without the
other half. Such a string is well-formed, but it stands for no text.

## Main definitions

* `Json`: the documents.
* `Json.text s`, `Json.record ms`: a string with the given text, an object with the
  given members.
-/

namespace PagedQuery

/-- A JSON document. -/
inductive Json where
  | null
  | bool (b : Bool)
  /-- A number without fraction and exponent, other than minus zero. -/
  | integer (n : Int)
  /-- Any other number, as written. -/
  | decimal (text : List Char)
  | string (text : Option String)
  | array (elements : List Json)
  | object (members : List (Option String × Json))

namespace Json

/-- The string with the given text. -/
def text (s : String) : Json := string (some s)

/-- The object with the given members. -/
def record (members : List (String × Json)) : Json :=
  object (members.map fun (name, value) => (some name, value))

end Json

end PagedQuery
