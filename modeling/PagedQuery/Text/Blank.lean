/-!
# Blank characters

White space as Unicode's `White_Space` property has it, and text with its outer white
space removed. The zero-width space, the byte order mark and the ASCII separators
`U+001C` to `U+001F` are not white space.

## Main definitions

* `isBlank c`: `c` is white space.
* `trimStart cs`, `trim cs`: `cs` without the white space at its start, at both ends.
-/

namespace PagedQuery.Text

/-- Holds of the white space characters. -/
def isBlank (c : Char) : Bool :=
  let n := c.toNat
  (0x9 ≤ n && n ≤ 0xD) || n == 0x20 || n == 0x85 || n == 0xA0 || n == 0x1680
    || (0x2000 ≤ n && n ≤ 0x200A) || n == 0x2028 || n == 0x2029 || n == 0x202F || n == 0x205F
    || n == 0x3000

/-- The text without the white space at its start. -/
def trimStart (cs : List Char) : List Char := cs.dropWhile isBlank

/-- The text without the white space at either end. -/
def trim (cs : List Char) : List Char := (trimStart (trimStart cs).reverse).reverse

/-- Text with no white space at either end is left as it is. -/
theorem trim_eq_self {cs : List Char} (hs : ∀ c ∈ cs.head?, isBlank c = false)
    (he : ∀ c ∈ cs.getLast?, isBlank c = false) : trim cs = cs := by
  have dropBlank {ds : List Char} (h : ∀ c ∈ ds.head?, isBlank c = false) :
      ds.dropWhile isBlank = ds := by
    cases ds with
    | nil => rfl
    | cons d ds => simp [h d rfl]
  have hr : ∀ c ∈ cs.reverse.head?, isBlank c = false := by
    simpa [List.head?_reverse] using he
  simp [trim, trimStart, dropBlank hs, dropBlank hr]

end PagedQuery.Text
