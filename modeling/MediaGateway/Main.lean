import MediaGateway.Startup

/-!
# The program

Reads the environment and the file beside the program, starts, writes what there
is to write, and waits for the end of its input before it stops.
-/

namespace MediaGateway

/-- Texts with a zero octet behind each. -/
def zeroEnded (octets : ByteArray) : List String :=
  (octets.toList.splitOn 0).filterMap fun text => String.fromUTF8? ⟨text.toArray⟩

/-- Waits for the end of a stream. -/
partial def awaitEnd (stream : IO.FS.Stream) : IO Unit := do
  if (← stream.getLine) ≠ "" then awaitEnd stream

/-- Starts, serves and stops; returns the exit code. -/
def runProgram : IO UInt32 := do
  let octets ← IO.FS.readBinFile "/proc/self/environ"
  let file ← try some <$> IO.FS.readFile ".env" catch _ => pure none
  let report := Startup.run {
    environment := .ofEntries (zeroEnded octets)
    file := file
    canListen := Net.SocketAddress.isListenable }
  report.complaints.forM IO.eprintln
  report.lines.forM IO.println
  match report.outcome with
  | .failed => pure ()
  | .serving closing =>
    awaitEnd (← IO.getStdin)
    closing.forM IO.println
  return report.exitCode.toUInt32

end MediaGateway

/-- Runs the program. -/
def main : IO UInt32 := MediaGateway.runProgram
