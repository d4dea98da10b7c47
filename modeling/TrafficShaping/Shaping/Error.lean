import TrafficShaping.Namespace
import TrafficShaping.Program

/-!
# Shaping errors

A shaping operation can fail before, while and after its commands run: the namespace cannot be found, the
commands cannot be run in it or fail, or the process has left it by the time they are done.
-/

namespace TrafficShaping

inductive ShapingError where
  | unresolvable (pid : Pid) (cause : Cause)
  | changed (pid : Pid) (expected : Identity)
  | enter (e : Errno)
  | spawn (cause : Cause)
  | panicked
  | command (e : CommandError)
deriving DecidableEq

def ShapingError.message : ShapingError → String
  | .unresolvable pid cause =>
    "failed to resolve network namespace of pid " ++ pid.text ++ ": " ++ cause.message
  | .changed pid expected =>
    "network namespace of pid " ++ pid.text ++ " changed from " ++ expected.text ++ " while shaping"
  | .enter e => "failed to enter network namespace: " ++ e.namedMessage
  | .spawn cause => "failed to spawn namespace thread: " ++ cause.message
  | .panicked => "namespace thread panicked"
  | .command e => e.message

end TrafficShaping
