import TrafficShaping.Namespace
import TrafficShaping.Shaping.Command
import TrafficShaping.Text.Quoted

/-!
# Options of the shaper

Which device is shaped, by which program, and where processes show their namespaces.
-/

namespace TrafficShaping

structure ShaperOptions where
  interface : String := "eth0"
  program : String := "tc"
  procRoot : String := "/proc"
deriving DecidableEq

namespace ShaperOptions

def builder (o : ShaperOptions) : CommandBuilder := ⟨o.program, o.interface⟩

/-- The options by name, for logs. -/
def text (o : ShaperOptions) : String :=
  "ShaperOptions \x7b interface: " ++ Text.quoted o.interface ++ ", tc_binary: " ++
    Text.quoted o.program ++ ", proc_root: " ++ Text.quoted o.procRoot ++ " \x7d"

end ShaperOptions

end TrafficShaping
