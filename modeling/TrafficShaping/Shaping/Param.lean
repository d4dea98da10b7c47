import TrafficShaping.Text.Blank

/-!
# Shaping parameters

A parameter is a value such as `500ms` or `10%`, or unset. In a report an unset parameter shows as a
hyphen, so the hyphen is not a value: `Param.ofText` sends it, and any blank text, to `unset`, and trims
everything else.
-/

namespace TrafficShaping

inductive Param where
  | unset
  | set (value : String)
deriving DecidableEq

namespace Param

instance : Inhabited Param := ⟨.unset⟩

/-- What an unset parameter shows as. -/
def unsetText : String := "-"

/-- The parameter that a text means. -/
def ofText (s : String) : Param :=
  let trimmed := Text.trim s
  if trimmed = "" ∨ trimmed = unsetText then .unset else .set trimmed

def text : Param → String
  | .unset => unsetText
  | .set value => value

def value? : Param → Option String
  | .unset => none
  | .set value => some value

def isSet (p : Param) : Bool := p.value?.isSome

end Param

/-- What can be shaped. -/
inductive Dimension where
  | latency
  | packetLoss
deriving DecidableEq

/-- The dimension that has to be carried over when this one is applied. -/
def Dimension.other : Dimension → Dimension
  | .latency => .packetLoss
  | .packetLoss => .latency

/-- The parameters last applied to a network namespace. -/
structure Shape where
  latency : Param := .unset
  packetLoss : Param := .unset
deriving DecidableEq

namespace Shape

instance : Inhabited Shape := ⟨{}⟩

def get (s : Shape) : Dimension → Param
  | .latency => s.latency
  | .packetLoss => s.packetLoss

def set (s : Shape) (d : Dimension) (p : Param) : Shape :=
  match d with
  | .latency => { s with latency := p }
  | .packetLoss => { s with packetLoss := p }

/-- Both parameters, latency first. -/
def text (s : Shape) : String := s.latency.text ++ " " ++ s.packetLoss.text

@[simp] theorem get_set_self (s : Shape) (d : Dimension) (p : Param) : (s.set d p).get d = p := by
  cases d <;> rfl

@[simp] theorem get_set_other (s : Shape) (d : Dimension) (p : Param) :
    (s.set d p).get d.other = s.get d.other := by
  cases d <;> rfl

theorem get_set (s : Shape) (d d' : Dimension) (p : Param) :
    (s.set d p).get d' = if d' = d then p else s.get d' := by
  cases d <;> cases d' <;> rfl

end Shape

end TrafficShaping
