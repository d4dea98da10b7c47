import TrafficShaping.Text.Blank
import TrafficShaping.Number.Decimal

/-!
# Network namespaces

The kernel names a network namespace by a number. A process shows the namespace it lives in through a
symbolic link whose target is that number in brackets, and two processes share a namespace exactly when
these targets agree. The identity of a namespace is what stands between the brackets.
-/

namespace TrafficShaping

/-- A process, by its number. -/
abbrev Pid := UInt32

def Pid.text (pid : Pid) : String := Number.naturalText pid.toNat

/-- The identity of a network namespace. -/
structure Identity where
  text : String
  nonempty : text ≠ ""
deriving DecidableEq

namespace Identity

theorem text_inj {a b : Identity} : a.text = b.text ↔ a = b := by
  cases a
  cases b
  simp

def of? (text : String) : Option Identity := if h : text ≠ "" then some ⟨text, h⟩ else none

/-- The identity that the target of a namespace link names. -/
def ofLinkTarget? (target : String) : Option Identity :=
  ((Text.stripStart? "net:[" target).bind (Text.stripEnd? "]")).bind of?

end Identity

/-- A path with one more component. -/
def joinPath (path component : String) : String :=
  if path = "" ∨ path.toList.getLast? = some '/' then path ++ component
  else path ++ "/" ++ component

/-- Where a process shows its network namespace, below the mount point of procfs. -/
def namespacePath (root : String) (pid : Pid) : String :=
  joinPath (joinPath (joinPath root pid.text) "ns") "net"

/-- Where procfs is mounted by default. -/
def procRoot : String := "/proc"

end TrafficShaping
