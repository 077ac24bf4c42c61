/-!
# Case within ASCII

Words of ASCII letters that are found in any case.
-/

namespace MediaGateway.Text

/-- The small form of a capital ASCII letter; other characters stay. -/
def lowerAscii (char : Char) : Char :=
  if 'A' ≤ char ∧ char ≤ 'Z' then Char.ofNat (char.toNat + 32) else char

/-- Whether two texts differ at most in the case of ASCII letters. -/
def sameIgnoringCase (left right : String) : Bool :=
  left.toList.map lowerAscii = right.toList.map lowerAscii

end MediaGateway.Text
