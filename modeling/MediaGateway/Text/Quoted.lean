import MediaGateway.Text.Hidden

/-!
# Quoted text

The form in which events show texts that may hold anything: between double
quotes, with the quote, the backslash and the usual control characters behind a
backslash, and every other character that would not be seen as its code point.
Lists stand in brackets and an optional value says whether it is there.
-/

namespace MediaGateway.Text

/-- Lower-case hexadecimal digits of a number, none in front of the first that counts. -/
def hexDigits (value : Nat) : List Char := Nat.toDigits 16 value

/-- The characters that stand for one character between quotes. -/
def quotedChar (char : Char) : List Char :=
  if char = '"' then ['\\', '"']
  else if char = '\\' then ['\\', '\\']
  else if char = '\n' then ['\\', 'n']
  else if char = '\r' then ['\\', 'r']
  else if char = '\t' then ['\\', 't']
  else if char.toNat = 0 then ['\\', '0']
  else if isHidden char then ['\\', 'u', '\x7b'] ++ hexDigits char.toNat ++ ['\x7d']
  else [char]

/-- The quoted form of a text. -/
def quoted (text : String) : String :=
  String.ofList ('"' :: text.toList.flatMap quotedChar ++ ['"'])

/-- The quoted form of a list of texts. -/
def quotedList (texts : List String) : String :=
  "[" ++ String.intercalate ", " (texts.map quoted) ++ "]"

/-- The shown form of an optional value, given that of the value. -/
def shownOption {α : Type} (shown : α → String) : Option α → String
  | none => "None"
  | some value => "Some(" ++ shown value ++ ")"

end MediaGateway.Text
