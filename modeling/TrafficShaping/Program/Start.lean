import TrafficShaping.Program.Shell.Execution

/-!
# Starting programs

A program is started on the machine with nothing to read, and what it writes is kept until it has ended. The
machine is a fresh one each time, so `Program.start` is a way to start programs that has no state.
-/

namespace TrafficShaping.Program

/-- What programs are told of the parameters where nobody has changed them. -/
def environment : List (String × Parameter) :=
  [("HOME", "/root"), ("PATH", Machine.searchPath)].map fun p => (p.1, { value := some p.2, isExported := true })

/-- What a program wrote to a stream. -/
def writtenTo (stream : Nat) (st : Shell) : String :=
  ByteText.toText (Piece.joined ((st.world.outputs.lookup stream).getD []))

/-- Starts a program and waits for its end. -/
def start (program : String) (arguments : List String) : Except Cause Outcome :=
  if (program :: arguments).any (·.contains '\x00') then .error .nulByte
  else
    let word := ByteText.ofText program
    let st : Shell := { parameters := environment }
    match st.world.disk.program st.directory word with
    | .error e => .error (.system e)
    | .ok e =>
      let outcome (status : ExitStatus) (st : Shell) : Outcome := ⟨status, writtenTo 1 st, writtenTo 2 st⟩
      match (Shell.start Shell.depthLimit true e word (arguments.map ByteText.ofText)).run st with
      | .ok status st => .ok (outcome status st)
      | .error (.killed _ signal) st => .ok (outcome (.signaled signal false) st)
      | .error _ st => .ok (outcome (.exited 2) st)

end TrafficShaping.Program
