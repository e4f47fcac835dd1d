import PagedQuery.Json.Text

/-!
# Reading JSON documents

The grammar of JSON without extensions. White space is the space, the tab and the two
line ends; a number has no leading zeros; nothing but white space may follow a document.

## Main definitions

* `Json.readNumber? cs`: a number from the front of `cs`, and what follows it.
* `Json.readValue? fuel cs`: the same for a document, with a bound on the depth of the
  recursion.
* `Json.read? s`: the document that the whole of `s` writes.
-/

namespace PagedQuery

namespace Json

/-- Holds of the white space between the parts of a document. -/
def isSpace (c : Char) : Bool := c == ' ' || c == '\t' || c == '\n' || c == '\r'

/-- The text without white space at its start. -/
def skipSpace (cs : List Char) : List Char := cs.dropWhile isSpace

/-! ## Numbers and words -/

/-- The characters of a fraction with its point, if there is one, and what follows them. -/
def splitPoint? : List Char → Option (List Char × List Char)
  | '.' :: cs =>
    let ds := cs.takeWhile Char.isDigit
    if ds.isEmpty then none else some ('.' :: ds, cs.dropWhile Char.isDigit)
  | cs => some ([], cs)

/-- The sign at the front of an exponent, if there is one, and what follows it. -/
def splitSign : List Char → List Char × List Char
  | '+' :: cs => (['+'], cs)
  | '-' :: cs => (['-'], cs)
  | cs => ([], cs)

/-- The characters of an exponent with its letter, if there is one, and what follows
them. -/
def splitExponent? : List Char → Option (List Char × List Char)
  | [] => some ([], [])
  | c :: cs =>
    if c = 'e' ∨ c = 'E' then
      let (sign, cs) := splitSign cs
      let ds := cs.takeWhile Char.isDigit
      if ds.isEmpty then none else some (c :: sign ++ ds, cs.dropWhile Char.isDigit)
    else some ([], c :: cs)

/-- Holds of digits without a leading zero; zero itself is one digit. -/
def isWhole (ds : List Char) : Bool := !ds.isEmpty && (ds.head? != some '0' || ds.length == 1)

/-- A number after its sign. -/
def readUnsigned? (negative : Bool) (cs : List Char) : Option (Json × List Char) := do
  let whole := cs.takeWhile Char.isDigit
  let (fraction, rest) ← splitPoint? (cs.dropWhile Char.isDigit)
  let (exponent, rest) ← splitExponent? rest
  if !isWhole whole then none
  else if fraction.isEmpty && exponent.isEmpty && !(negative && whole == ['0']) then
    let n : Int := Decimal.valueOf whole
    pure (integer (if negative then -n else n), rest)
  else
    let size := whole ++ fraction ++ exponent
    pure (decimal (if negative then '-' :: size else size), rest)

/-- A number from the front of the text. -/
def readNumber? : List Char → Option (Json × List Char)
  | '-' :: cs => readUnsigned? true cs
  | cs => readUnsigned? false cs

/-- A word or a number from the front of the text. -/
def readAtom? : List Char → Option (Json × List Char)
  | 'n' :: 'u' :: 'l' :: 'l' :: cs => some (null, cs)
  | 't' :: 'r' :: 'u' :: 'e' :: cs => some (bool true, cs)
  | 'f' :: 'a' :: 'l' :: 's' :: 'e' :: cs => some (bool false, cs)
  | cs => readNumber? cs

/-! ## Documents -/

mutual

/-- A document from the front of the text. -/
def readValue? : Nat → List Char → Option (Json × List Char)
  | 0, _ => none
  | fuel + 1, cs =>
    match skipSpace cs with
    | '"' :: cs => (readString? cs).map fun (s, rest) => (string s, rest)
    | '[' :: cs =>
      match skipSpace cs with
      | ']' :: cs => some (array [], cs)
      | cs => readElements? fuel [] cs
    | '\x7b' :: cs =>
      match skipSpace cs with
      | '\x7d' :: cs => some (object [], cs)
      | cs => readMembers? fuel [] cs
    | cs => readAtom? cs

/-- The rest of an array after the elements in `read`, the last of them first. -/
def readElements? : Nat → List Json → List Char → Option (Json × List Char)
  | 0, _, _ => none
  | fuel + 1, read, cs =>
    match readValue? fuel cs with
    | none => none
    | some (value, cs) =>
      match skipSpace cs with
      | ',' :: cs => readElements? fuel (value :: read) cs
      | ']' :: cs => some (array (value :: read).reverse, cs)
      | _ => none

/-- The rest of an object after the members in `read`, the last of them first. -/
def readMembers? :
    Nat → List (Option String × Json) → List Char → Option (Json × List Char)
  | 0, _, _ => none
  | fuel + 1, read, cs =>
    match skipSpace cs with
    | '"' :: cs =>
      match readString? cs with
      | none => none
      | some (name, cs) =>
        match skipSpace cs with
        | ':' :: cs =>
          match readValue? fuel cs with
          | none => none
          | some (value, cs) =>
            match skipSpace cs with
            | ',' :: cs => readMembers? fuel ((name, value) :: read) cs
            | '\x7d' :: cs => some (object ((name, value) :: read).reverse, cs)
            | _ => none
        | _ => none
    | _ => none

end

/-- The document that the whole of a text writes. No part of a document is empty, so the
length of the text bounds the recursion. -/
def read? (s : String) : Option Json :=
  let cs := s.toList
  match readValue? (cs.length + 1) cs with
  | some (value, rest) => if (skipSpace rest).isEmpty then some value else none
  | none => none

end Json

end PagedQuery
