import MarcLens.Text.Basic

/-!
# Blanks

White space in the sense of the Unicode property, together with the four separator controls
U+001C to U+001F, and the removal of blanks at the ends of a text.
-/

namespace MarcLens

/-- The code points of the blanks, as closed ranges. The zero width space, the word joiner and the
    byte order mark are not among them. -/
def blankRanges : List (Nat × Nat) :=
  [(0x9, 0xD), (0x1C, 0x20), (0x85, 0x85), (0xA0, 0xA0), (0x1680, 0x1680), (0x2000, 0x200A),
   (0x2028, 0x2029), (0x202F, 0x202F), (0x205F, 0x205F), (0x3000, 0x3000)]

def isBlank (c : Char) : Bool :=
  blankRanges.any fun r => r.1 ≤ c.toNat && c.toNat ≤ r.2

namespace Text

/-- `t` without the blanks at its start. -/
def trimLeft (t : Text) : Text := t.dropWhile isBlank

/-- `t` without the blanks at its end. -/
def trimRight (t : Text) : Text := (t.reverse.dropWhile isBlank).reverse

/-- `t` without the blanks at either end. -/
def trim (t : Text) : Text := trimRight (trimLeft t)

/-- The text has blanks only, or nothing at all. -/
def isVoid (t : Text) : Bool := t.all isBlank

end Text

end MarcLens
