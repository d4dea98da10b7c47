import TrafficShaping.Files.Calls
import TrafficShaping.Shaping.Shaper

/-!
# Namespaces in procfs

The namespace of a process is named by the target of a link that procfs has for it. The target is only read,
never followed, so it need not lead anywhere. To enter the namespace the link is followed, what it leads to is
opened, and the system is asked to enter that; most files of a tree can be opened but are no namespaces.

Targets are bytes. What is not text in a target becomes U+FFFD before it is looked at.
-/

namespace TrafficShaping

namespace Procfs

/-- What an error says as the cause of another. -/
def cause : FileError → Cause
  | .system e => .system e
  | .notSocket _ => .system .alreadyExists
  | .nulInName | .nulInAddress | .addressTooLong => .nulByte

/-- The namespace of a process, by the files below a mount point. -/
def resolve (root : String) (pid : Pid) (t : Tree) : Except ShapingError Identity :=
  match t.readLink (Path.ofText (namespacePath root pid)) with
  | .error e => .error (.unresolvable pid (cause e))
  | .ok target =>
    match Identity.ofLinkTarget? target.text with
    | some n => .ok n
    | none => .error (.unresolvable pid (.unexpectedTarget target.text))

/-- Whether a location is where the machine's own procfs has the network namespace of a process. -/
def isNamespace (l : Location) : Bool :=
  match l with
  | [net, ns, _, proc] => [proc, ns, net].map Path.text = ["proc", "ns", "net"]
  | _ => false

/-- Enters the namespace of a process. The system may refuse to enter what the link leads to. -/
def enter (setNamespace : Location → Except Errno Unit) (root : String) (pid : Pid) (t : Tree) :
    Except ShapingError Unit :=
  let p := Path.ofText (namespacePath root pid)
  match Tree.call p (t.find p) with
  | .error e => .error (.unresolvable pid (cause e))
  | .ok l => (setNamespace l).mapError .enter

/-- A system that lets nobody enter a namespace. -/
def unprivileged (l : Location) : Except Errno Unit :=
  .error (if isNamespace l then .notPermitted else .invalid)

/-- The host whose processes are those of a procfs, which is in the files of a machine. Commands run where their
process is, and none of them runs unless the namespace of the process can be entered. -/
def host {σ : Type} (files : σ → Tree) (root : String) (setNamespace : Location → Except Errno Unit)
    (start : String → List String → σ → Except Cause Outcome × σ) : Host σ where
  resolve pid w := (resolve root pid (files w), w)
  run pid commands w :=
    match enter setNamespace root pid (files w) with
    | .error e => (.error e, w)
    | .ok () =>
      let (result, w) := runCommands start commands w
      (result.mapError .command, w)

end Procfs

end TrafficShaping
