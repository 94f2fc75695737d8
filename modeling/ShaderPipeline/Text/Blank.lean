/-!
# Blank characters

The white space of Unicode (the twenty-five characters with the property `White_Space`), and the
removal of blanks from the ends of a text. Every format of this library (shader sources, slot
files, driver logs) means this set when it speaks of white space; `Char.isWhitespace` of the core
library is the smaller ASCII set, which is contained in it.
-/

namespace ShaderPipeline.Text

/-- Whether a character is white space in the sense of Unicode. -/
def isBlank (c : Char) : Bool :=
  (0x09 ≤ c.toNat && c.toNat ≤ 0x0D) || c.toNat == 0x20 || c.toNat == 0x85 || c.toNat == 0xA0 ||
    c.toNat == 0x1680 || (0x2000 ≤ c.toNat && c.toNat ≤ 0x200A) || c.toNat == 0x2028 ||
    c.toNat == 0x2029 || c.toNat == 0x202F || c.toNat == 0x205F || c.toNat == 0x3000

/-- The text, or any other list, without the entries at its end that satisfy `drop`. -/
def dropTrailing {α : Type} (drop : α → Bool) (text : List α) : List α :=
  text.foldr (fun c kept => if kept.isEmpty && drop c then [] else c :: kept) []

/-- The text without the blanks at its start. -/
def trimStart (text : List Char) : List Char :=
  text.dropWhile isBlank

/-- The text without the blanks at its end. -/
def trimEnd (text : List Char) : List Char :=
  dropTrailing isBlank text

/-- The text without the blanks at both ends. -/
def trim (text : List Char) : List Char :=
  trimEnd (trimStart text)

end ShaderPipeline.Text
