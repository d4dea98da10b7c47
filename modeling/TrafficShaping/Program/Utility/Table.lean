import TrafficShaping.Program.Utility.Characters
import TrafficShaping.Program.Utility.Checksum
import TrafficShaping.Program.Utility.Dump
import TrafficShaping.Program.Utility.Edit
import TrafficShaping.Program.Utility.Expression
import TrafficShaping.Program.Utility.Files
import TrafficShaping.Program.Utility.Lines
import TrafficShaping.Program.Utility.Names
import TrafficShaping.Program.Utility.Numbers
import TrafficShaping.Program.Utility.Search
import TrafficShaping.Program.Utility.Test

/-!
# The utilities by name

Every utility has a name that it is called by.
-/

namespace TrafficShaping.Program

namespace Utility

def succeed : Utility := fun _ => {}

def fail : Utility := fun _ => { code := 1 }

def table : List (String × Utility) :=
  [("true", succeed), ("false", fail), ("sleep", sleep), ("echo", echo), ("printf", printf), ("test", test),
    ("[", bracket), ("cat", cat), ("tac", tac), ("rev", rev), ("head", head), ("tail", tail), ("wc", wc),
    ("tr", tr), ("base64", base64), ("cut", cut), ("paste", paste), ("nl", nl), ("fold", fold), ("sort", sort),
    ("uniq", uniq), ("tee", tee), ("dd", dd), ("grep", grep), ("sed", sed), ("seq", seq), ("yes", yes),
    ("expr", expr), ("basename", basename), ("dirname", dirname), ("pwd", pwd), ("which", which),
    ("printenv", printenv), ("id", id), ("whoami", whoami), ("logname", logname), ("uname", uname), ("arch", arch), ("tty", tty),
    ("ls", ls), ("mkdir", mkdir), ("rmdir", rmdir), ("rm", rm), ("touch", touch), ("chmod", chmod), ("cp", cp),
    ("mv", mv), ("ln", ln), ("cmp", cmp), ("od", od), ("cksum", cksum), ("sum", sum)] ++
    Checksum.all.map fun k => (k.program, k.utility)

/-- The utility of a name. -/
def ofName? (name : String) : Option Utility := table.lookup name

end Utility

end TrafficShaping.Program
