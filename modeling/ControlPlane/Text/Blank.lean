/-!
# White space

The characters with the Unicode property White_Space.  All but three of them lie
in the two blocks that the first and the last ranges name.
-/

namespace ControlPlane.Text

/-- Whether a character is white space. -/
def isBlank (char : Char) : Bool :=
  let code := char.toNat
  (9 ≤ code && code ≤ 13) || code == 0x20 || code == 0x85 || code == 0xA0 || code == 0x1680 ||
    (0x2000 ≤ code && code ≤ 0x200A) || code == 0x2028 || code == 0x2029 || code == 0x202F ||
    code == 0x205F || code == 0x3000

/-- The text without white space at its start. -/
def trimStart (chars : List Char) : List Char :=
  chars.dropWhile isBlank

/-- The text without white space at either end. -/
def trim (chars : List Char) : List Char :=
  (trimStart (trimStart chars).reverse).reverse

end ControlPlane.Text
