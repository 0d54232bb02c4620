import RegexMachine.Session.Basic

namespace RegexMachine

/-- Reads bytes up to the end of a line or of the input. `line` holds those read so far, newest
first. -/
partial def readSegment (input : IO.FS.Stream) (line : List UInt8) : IO (List UInt8) := do
  match (← input.read 1).toList with
  | [] => pure line.reverse
  | byte :: _ =>
    if byte = Text.lineFeed then pure (byte :: line).reverse else readSegment input (byte :: line)

/-- Prints what each line calls for as soon as it is read. -/
partial def converse (input output : IO.FS.Stream) (session : Session) : IO Nat := do
  match session with
  | .failed => pure Session.failure
  | session =>
    let segment ← readSegment input []
    if segment.isEmpty then pure Session.success
    else
      let (printed, session) := session.next (Text.decode (Text.withoutTerminator segment))
      output.putStr printed
      output.flush
      converse input output session

end RegexMachine

def main (arguments : List String) : IO UInt32 := do
  match RegexMachine.Options.parse arguments with
  | .error ending =>
    (if ending = .page then IO.println else IO.eprintln) "usage: [-v|--verbose]"
    pure (UInt32.ofNat (RegexMachine.Session.ended ending))
  | .ok options =>
    let output ← IO.getStdout
    output.putStr RegexMachine.Session.prompt
    output.flush
    let code ← RegexMachine.converse (← IO.getStdin) output (.awaiting options)
    pure (UInt32.ofNat code)
