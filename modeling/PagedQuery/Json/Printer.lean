import PagedQuery.Json.Text

/-!
# Writing JSON documents

The text of a document without white space.

## Main definitions

* `Json.render j`: the text of `j`.
-/

namespace PagedQuery

namespace Json

/-- The text of a string. -/
def renderString : Option String → List Char
  | some s => quote s
  | none => quoteHalf

mutual

/-- The text of a document. -/
def renderChars : Json → List Char
  | null => "null".toList
  | bool true => "true".toList
  | bool false => "false".toList
  | integer n => Decimal.integerText n
  | decimal text => text
  | string s => renderString s
  | array [] => "[]".toList
  | array (value :: values) => '[' :: renderChars value ++ renderElements values
  | object [] => ['\x7b', '\x7d']
  | object ((name, value) :: members) =>
    '\x7b' :: renderString name ++ ':' :: renderChars value ++ renderMembers members

/-- The rest of an array after its first element. -/
def renderElements : List Json → List Char
  | [] => [']']
  | value :: values => ',' :: renderChars value ++ renderElements values

/-- The rest of an object after its first member. -/
def renderMembers : List (Option String × Json) → List Char
  | [] => ['\x7d']
  | (name, value) :: members =>
    ',' :: renderString name ++ ':' :: renderChars value ++ renderMembers members

end

/-- The text of a document. -/
def render (j : Json) : String := String.ofList j.renderChars

end Json

end PagedQuery
