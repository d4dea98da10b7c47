import TrafficShaping.Shaping.LockTable
import TrafficShaping.Shaping.Param

/-!
# What was applied

The cache remembers, for every namespace, the parameters that were last applied to it with success. A
namespace without an entry reads as unset in both dimensions. The cache also keeps the locks under which
namespaces are shaped; entries and locks do not depend on each other. The calls that change entries are also
given as data, with what they answer.
-/

namespace TrafficShaping

/-- A change of one dimension. -/
structure Mutation where
  dimension : Dimension
  value : Param
deriving DecidableEq

def Mutation.ofText (d : Dimension) (value : String) : Mutation := ⟨d, .ofText value⟩

def Mutation.latency (value : String) : Mutation := ofText .latency value
def Mutation.packetLoss (value : String) : Mutation := ofText .packetLoss value

/-- What a mutation makes of a shape. -/
def Mutation.applyTo (m : Mutation) (s : Shape) : Shape := s.set m.dimension m.value

structure Cache where
  shapes : Dict Shape := ∅
  locks : LockTable := {}
deriving DecidableEq

namespace Cache

instance : Inhabited Cache := ⟨{}⟩

/-- The entry of a namespace. -/
def get? (c : Cache) (n : Identity) : Option Shape := c.shapes.get? n.text

/-- The shape of a namespace, unset if it has no entry. -/
def read (c : Cache) (n : Identity) : Shape := (c.get? n).getD {}

/-- Changes one dimension of an entry, which is made if there is none. -/
def apply (c : Cache) (n : Identity) (m : Mutation) : Cache :=
  { c with shapes := c.shapes.insert n.text (m.applyTo (c.read n)) }

/-- Removes an entry. -/
def clear (c : Cache) (n : Identity) : Cache := { c with shapes := c.shapes.erase n.text }

/-- How many namespaces have an entry. -/
def size (c : Cache) : Nat := c.shapes.size

def isEmpty (c : Cache) : Bool := c.shapes.isEmpty

/-- Works on the cache under the lock of a namespace, and tidies the lock away however the work ends. -/
def locked {α σ : Type} (c : Cache) (n : Identity) (work : Cache → α × Cache × σ) :
    α × Cache × σ :=
  let (lock, locks) := c.locks.acquire n
  let (result, c, rest) := work { c with locks }
  (result, { c with locks := (c.locks.letGo lock).release n }, rest)

theorem get?_apply (c : Cache) (n other : Identity) (m : Mutation) :
    (c.apply n m).get? other =
      if other = n then some (m.applyTo (c.read n)) else c.get? other := by
  simp [apply, get?, Dict.get?_insert, Identity.text_inj]

theorem get?_clear (c : Cache) (n other : Identity) :
    (c.clear n).get? other = if other = n then none else c.get? other := by
  simp [clear, get?, Dict.get?_erase, Identity.text_inj]

end Cache

/-- A call that changes the entries of a cache. -/
inductive CacheCall where
  | apply (n : Identity) (m : Mutation)
  | clear (n : Identity)
deriving DecidableEq

/-- Makes a call. It answers the entry that it leaves, or the one that it has removed. -/
def CacheCall.perform (c : Cache) : CacheCall → Option Shape × Cache
  | .apply n m => (some (m.applyTo (c.read n)), c.apply n m)
  | .clear n => (c.get? n, c.clear n)

end TrafficShaping
