/-!
# Blank characters

A character is blank when it has the Unicode property White_Space. Trimming
drops the blank characters at both ends of a text and keeps those inside.
-/

namespace MediaGateway.Text

/-- The characters with the property White_Space. -/
def isBlank (char : Char) : Bool :=
  let code := char.toNat
  (0x09 ≤ code && code ≤ 0x0D) || code = 0x20 || code = 0x85 || code = 0xA0 || code = 0x1680
    || (0x2000 ≤ code && code ≤ 0x200A) || code = 0x2028 || code = 0x2029 || code = 0x202F
    || code = 0x205F || code = 0x3000

/-- The characters left when those at both ends that satisfy a test are dropped. -/
def trimWhere (test : Char → Bool) (chars : List Char) : List Char :=
  ((chars.dropWhile test).reverse.dropWhile test).reverse

/-- The text without the blank characters at its ends. -/
def trim (text : String) : String := String.ofList (trimWhere isBlank text.toList)

/-- Whether a text holds blank characters only. -/
def isAllBlank (text : String) : Bool := text.toList.all isBlank

end MediaGateway.Text
