import TrafficShaping.Shaping.Param

/-!
# Queueing discipline commands

Both dimensions live in one `netem` discipline at the root of a device. Changing one of them rewrites the
whole discipline, so a command has to name the other one too, unless it is unset. A change is always
preceded by a `replace`, which puts an empty `netem` in place whether or not there was one.

A value may hold several words, as in `100ms 10ms` for a delay with jitter; each is an argument of its own.
-/

namespace TrafficShaping

/-- A command line, program first. -/
abbrev Command := List String

def Command.line (c : Command) : String := Text.joinWith " " c

/-- The `netem` option of a dimension. -/
def Dimension.option : Dimension → String
  | .latency => "delay"
  | .packetLoss => "loss"

/-- The handle of the discipline at the root. -/
def rootHandle : String := "1:"

/-- Which program changes disciplines, and on which device. -/
structure CommandBuilder where
  program : String := "tc"
  interface : String := "eth0"
deriving DecidableEq

namespace CommandBuilder

instance : Inhabited CommandBuilder := ⟨{}⟩

/-- What every command of a builder begins with, up to the options. -/
def discipline (b : CommandBuilder) (verb : String) : Command :=
  [b.program, "qdisc", verb, "dev", b.interface, "root", "handle", rootHandle, "netem"]

/-- The words of an option: its keyword and the words of its value. -/
def optionWords (d : Dimension) (value : String) : List String := d.option :: Text.words value

/-- Puts an empty discipline in place. -/
def replace (b : CommandBuilder) : Command := b.discipline "replace"

/-- Sets one dimension and carries the other over. -/
def change (b : CommandBuilder) (d : Dimension) (value : String) (other : Param) : Command :=
  b.discipline "change" ++ optionWords d value ++ (other.value?.elim [] (optionWords d.other))

/-- The commands that apply a value. -/
def build (b : CommandBuilder) (d : Dimension) (value : String) (other : Param) : List Command :=
  [b.replace, b.change d value other]

/-- The commands that clear both dimensions. -/
def clear (b : CommandBuilder) : List Command := [b.replace]

end CommandBuilder

end TrafficShaping
