import TrafficShaping.Json.Parser

/-!
# Replies

What a server says to a request: a status, and a body unless the status leaves no room for one. Which
statuses count as success is for each client to say. A long body does not come all at once.
-/

namespace TrafficShaping

structure Reply where
  status : Nat
  body : List UInt8 := []

/-- What follows the headers of a reply; some statuses have nothing after them. -/
def Reply.content (r : Reply) : List UInt8 :=
  if r.status < 200 ∨ r.status = 204 ∨ r.status = 304 then [] else r.body

/-- How much is read from a connection at first. -/
def readSize : Nat := 8192

/-- About how many bytes the headers of a reply take. -/
def headSize : Nat := 111

/-- Bytes in the parts that they are read in. As long as there is more, twice as much is read the next time. -/
def parts : Nat → List UInt8 → List (List UInt8)
  | most, bytes =>
    if h : bytes = [] ∨ most = 0 then []
    else bytes.take most :: parts (2 * most) (bytes.drop most)
termination_by _ bytes => bytes.length
decreasing_by
  simp only [not_or] at h
  have := List.length_pos_iff.2 h.1
  simp only [List.length_drop]
  omega

/-- The content of a reply in the parts that it is read in. The first one comes along with the headers. -/
def Reply.arrivals (r : Reply) : List (List UInt8) :=
  let first := readSize - headSize
  [r.content.take first].filter (· ≠ []) ++ parts (2 * readSize) (r.content.drop first)

/-- The JSON in a reply. -/
def Reply.json? (r : Reply) : Option Json := Json.parse? r.content

end TrafficShaping
