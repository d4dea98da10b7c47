import TrafficShaping.Daemon.Event

/-!
# Streams of events

The daemon writes events one to a line for as long as the connection lasts. A line that breaks off in the
middle of an event is continued by the next one, the line break between them left out. The stream fails at
the first line that no event starts with.

The lines are read from a buffer, into which bytes come as they arrive. Whatever has come is read at once: an
event counts also before its line break is there. Where a line breaks off, nothing more is read before more
has arrived, be it only the news that the stream is over. At the end of the stream what is in the buffer is
read once more, and the stream fails if anything of it is left.

So how a stream is cut into arrivals makes a difference for lines that break off, of which at most as many
can be continued as there are arrivals. How much can arrive at once depends on the room in the buffer.
-/

namespace TrafficShaping.Daemon

/-- What a piece of a stream holds. -/
inductive Piece where
  | event (e : Event)
  | unfinished
  | malformed

/-- Reads a piece. A piece that holds `null` is continued like one that holds nothing. -/
def Piece.ofBytes (bytes : List UInt8) : Piece :=
  match Json.parse? bytes with
  | some .null => .unfinished
  | some j =>
    match Event.ofJson? j with
    | some e => .event e
    | none => .malformed
  | none =>
    if (Json.Beginning.ofBytes? bytes).any Event.kind.admits then .unfinished else .malformed

def lineBreak : UInt8 := 10

/-! ## The buffer -/

/-- Bytes that wait to be read, and where they are: behind those that have been read, in a buffer of some
size. -/
structure Buffer where
  passed : Nat := 0
  bytes : List UInt8 := []
  size : Nat := 8192

namespace Buffer

/-- How many bytes fit behind those that are there. -/
def room (b : Buffer) : Nat := b.size - b.passed - b.bytes.length

/-- Takes bytes off the front. -/
def pass (b : Buffer) (n : Nat) : Buffer := { b with passed := b.passed + n, bytes := b.bytes.drop n }

/-- Makes room if there is none: the bytes move to the front if most of what is there has been read, and
otherwise the buffer grows. -/
def widen (b : Buffer) : Buffer :=
  if 0 < b.room then b
  else if b.bytes.length ≤ b.passed then { b with passed := 0 }
  else { b with size := 2 * b.size }

/-- Puts bytes behind those that are there. -/
def add (b : Buffer) (bytes : List UInt8) : Buffer := { b with bytes := b.bytes ++ bytes }

/-- Joins the first line with the next one. A line that is more than its break is copied together with all
that follows. -/
def join (b : Buffer) : Buffer :=
  match b.bytes.span (· ≠ lineBreak) with
  | ([], _) => b.pass 1
  | (_, []) => b
  | (line, _ :: rest) =>
    let bytes := line ++ rest
    { bytes, size := max 8192 bytes.length }

/-- Reads events until more has to arrive. Nothing is left of a buffer with a line that no event starts with.
Every step but the last one reads a byte. -/
def events : Nat → Buffer → List Event × Option Buffer
  | 0, b => ([], some b)
  | n + 1, b =>
    if b.bytes = [] then ([], some b)
    else
      let line := b.bytes.takeWhile (· ≠ lineBreak)
      match Piece.ofBytes line with
      | .event e =>
        let b := if line.length < b.bytes.length then b.pass (line.length + 1) else { b with bytes := [] }
        let (es, b) := events n b
        (e :: es, b)
      | .unfinished => ([], some b.join)
      | .malformed => ([], none)

end Buffer

/-! ## Streams -/

/-- How a stream came to its end: as it should, or with something that is no event. -/
inductive StreamEnd where
  | ended
  | failed
deriving DecidableEq

/-- What a stream tells, and how it ends. -/
structure EventStream where
  events : List Event := []
  ending : StreamEnd := .ended

namespace EventStream

/-- A stream that begins with these events. -/
def after (events : List Event) (s : EventStream) : EventStream := ⟨events ++ s.events, s.ending⟩

/-- Reads what is in a buffer and what arrives. Every step takes a byte of an arrival, or an arrival that is
empty. -/
def follow : Nat → Buffer → List (List UInt8) → EventStream
  | 0, _, _ => ⟨[], .failed⟩
  | n + 1, b, arrivals =>
    match b.events (b.bytes.length + 1), arrivals with
    | (events, none), _ => ⟨events, .failed⟩
    | (events, some b), [] => ⟨events, if b.bytes = [] then .ended else .failed⟩
    | (events, some b), arrival :: arrivals =>
      let b := b.widen
      let rest := arrival.drop b.room
      after events (follow n (b.add (arrival.take b.room)) (if rest = [] then arrivals else rest :: arrivals))

/-- Reads a stream by what arrives of it. That it is over arrives last, and brings no bytes. -/
def ofArrivals (arrivals : List (List UInt8)) : EventStream :=
  follow (arrivals.flatten.length + arrivals.length + 2) {} (arrivals ++ [[]])

end EventStream

end TrafficShaping.Daemon
