/-!
# Blank characters

The characters of Unicode that are white space, and texts without those at their ends. A mark of
the byte order may stand in front of the text of a file; it is no blank.
-/

namespace ScriptScheduler

/-- Whether a code point is that of a blank. -/
def isBlankCodePoint (n : Nat) : Bool :=
  (9 ≤ n && n ≤ 13) || n = 0x20 || n = 0x85 || n = 0xA0 || n = 0x1680 ||
    (0x2000 ≤ n && n ≤ 0x200A) || n = 0x2028 || n = 0x2029 || n = 0x202F || n = 0x205F ||
    n = 0x3000

/-- Whether a character is blank. -/
def isBlank (c : Char) : Bool := isBlankCodePoint c.toNat

/-- A text without the blanks in front. -/
def dropBlanks (text : List Char) : List Char := text.dropWhile isBlank

/-- A text without the blanks at its end. -/
def dropEndBlanks (text : List Char) : List Char := (text.reverse.dropWhile isBlank).reverse

/-- A text without a mark of the byte order in front. -/
def dropMark : List Char → List Char
  | '\uFEFF' :: rest => rest
  | text => text

end ScriptScheduler
