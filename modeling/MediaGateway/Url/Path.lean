import MediaGateway.Url.Kind
import MediaGateway.Url.Percent

/-!
# Paths

A path is a list of segments. While it is read, a segment of one dot stands for
the place itself and one of two dots for the place above; a dot may be written as
an encoded octet. The root is a single empty segment. A path of a file may begin
with a drive, and no dots lead above that.
-/

namespace MediaGateway.Url

/-- The small form of the characters that a dot segment may hold. -/
def isDot (text : String) : Bool := text = "." || text = "%2e" || text = "%2E"

/-- Whether a segment is two dots. -/
def isDoubleDot (text : String) : Bool :=
  [".", "%2e", "%2E"].any fun first => [".", "%2e", "%2E"].any fun second => text = first ++ second

/-- Whether characters are a letter and the mark of a drive. -/
def isDriveMark (letter mark : Char) : Bool := letter.isAlpha && (mark = ':' || mark = '|')

/-- The drive that a segment names, with a colon for its mark. -/
def drive? (segment : String) : Option String :=
  match segment.toList with
  | [letter, mark] => if isDriveMark letter mark then some (String.ofList [letter, ':']) else none
  | _ => none

/-- Whether two dots behind a segment leave it where it is, as they do behind a drive. A
backslash may follow the drive. -/
def isLasting (segment : String) : Bool :=
  match segment.toList with
  | letter :: mark :: rest => isDriveMark letter mark && rest.head?.all (· = '\\')
  | _ => false

/-- The segments of the place above. -/
def above (ahead : List String) : List String :=
  if ahead.getLast?.any isLasting then ahead else ahead.dropLast

/-- A segment that comes in behind others. Where files are meant, a drive in front of the path
has a colon. -/
def written (files : Bool) (ahead : List String) (segment : String) : String :=
  if files ∧ ahead = [] then (drive? segment).getD segment else segment

/-- The segments when one comes in that others follow. -/
def enter (files : Bool) (ahead : List String) (segment : String) : List String :=
  if isDoubleDot segment then above ahead
  else if isDot segment then ahead
  else ahead ++ [written files ahead segment]

/-- The segments when the last one comes in; in place of dots it is empty. -/
def settle (files : Bool) (ahead : List String) (segment : String) : List String :=
  if isDoubleDot segment then above ahead ++ [""]
  else if isDot segment then ahead ++ [""]
  else ahead ++ [written files ahead segment]

/-- The segments when several come in one after another. -/
def settleAll (files : Bool) (ahead : List String) : List String → List String
  | [] => ahead
  | [last] => settle files ahead last
  | segment :: rest => settleAll files (enter files ahead segment) rest

/-- The segments without empty ones in front, as paths of files have them; the root stays. -/
def collapsed (names : List String) : List String :=
  if names.all (· = "") then [""] else names.dropWhile (· = "")

/-- Whether a character belongs to a path. -/
def inPath (char : Char) : Bool := char ≠ '?' && char ≠ '#'

/-- Tabs and ends of lines, which addresses drop wherever they stand. -/
def isBreak (char : Char) : Bool := char = '\t' || char = '\n' || char = '\r'

/-- The segments with one more put in as a whole. Dots alone put nothing in, the root gives
its place to the segment, and what would separate is encoded. -/
def appendSegment (kind : Kind) (names : List String) (segment : String) : List String :=
  if segment = "." ∨ segment = ".." then names
  else
    let ahead := if names = [""] then [] else names
    let whole := settle kind.isFile ahead (percentEncode (reservedInSegment kind.isSpecial)
      (segment.toList.filter fun char => !isBreak char))
    if kind.isFile then collapsed whole else whole

/-- The text of segments, each after a slash. -/
def pathText (names : List String) : String := String.join (names.map ("/" ++ ·))

end MediaGateway.Url
