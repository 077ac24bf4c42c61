/-!
# Names of calls

A call is known by its full path and by the last segment of that path, which is
its short name in events and counts.
-/

namespace MediaGateway.Chain

/-- The characters after the last slash; all of them when there is none. -/
def lastSegment (path : List Char) : List Char := (path.reverse.takeWhile (· ≠ '/')).reverse

/-- How a call is named. -/
structure CallInfo where
  /-- The full path. -/
  fullMethod : String
  /-- The last segment of the path. -/
  method : String
  deriving DecidableEq, Repr

/-- The names of the call with a path. -/
def CallInfo.ofPath (path : String) : CallInfo := ⟨path, String.ofList (lastSegment path.toList)⟩

end MediaGateway.Chain
