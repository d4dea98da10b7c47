import TrafficShaping.Json.Fields
import TrafficShaping.Metrics.Sample

/-!
# Query responses

A response holds the results of statements, a result holds series, and a series is a table with named
columns. A sample is read out of the first result by name alone: the series of each measurement, and in the
first row of a series the cell under a column. What is not there is unset.

A cell is any JSON value. A string is a parameter as it is, a number by its text, and anything else is
unset.
-/

namespace TrafficShaping.Metrics

/-- A cell of a table. -/
inductive Cell where
  | text (s : String)
  | number (n : Json.Number)
  | other
deriving DecidableEq

structure Series where
  name : String
  columns : List String := []
  rows : List (List Cell) := []
deriving DecidableEq

structure StatementResult where
  series : List Series := []
  error : Option String := none
deriving DecidableEq

structure Response where
  results : List StatementResult := []
  error : Option String := none
deriving DecidableEq

/-! ## Reading -/

/-- How deep a document may nest where its values are kept. -/
def nestingLimit : Nat := 127

/-- How many levels of a response are above a cell. -/
def levelsAboveCells : Nat := 7

def Cell.ofJson? (j : Json) : Option Cell :=
  if j.isKeepable (nestingLimit - levelsAboveCells) then
    match j with
    | .string l => l.decode?.map .text
    | .number n => some (.number n)
    | _ => some .other
  else none

def Series.ofJson? (j : Json) : Option Series := do
  let [name, columns, rows] ← j.fields? ["name", "columns", "values"] | none
  return {
    name := ← Json.required Json.string? name
    columns := ← Json.withDefault [] (Json.list? Json.string?) columns
    rows := ← Json.withDefault [] (Json.list? (Json.list? Cell.ofJson?)) rows }

def StatementResult.ofJson? (j : Json) : Option StatementResult := do
  let [series, error] ← j.fields? ["series", "error"] | none
  return {
    series := ← Json.withDefault [] (Json.list? Series.ofJson?) series
    error := ← Json.withDefault none (Json.nullable Json.string?) error }

def Response.ofJson? (j : Json) : Option Response := do
  let [results, error] ← j.fields? ["results", "error"] | none
  return {
    results := ← Json.withDefault [] (Json.list? StatementResult.ofJson?) results
    error := ← Json.withDefault none (Json.nullable Json.string?) error }

/-! ## Samples -/

/-- The text of a number: 64 bit integers as they are, everything else as a double. -/
def numberText (n : Json.Number) : String :=
  match n.between? (-Nat.pow 2 63) (Nat.pow 2 64 - 1) with
  | some i => Number.integerText i
  | none => (n.double?.map fun x => (Json.Number.ofDouble x).text).getD ""

def Cell.param : Cell → Param
  | .text s => .ofText s
  | .number n => .ofText (numberText n)
  | .other => .unset

/-- The cell under a column in the first row. -/
def Series.first? (s : Series) (column : String) : Option Cell := do
  let index ← s.columns.findIdx? (· == column)
  let row ← s.rows.head?
  row[index]?

/-- The parameter under a column of a series that may be missing. -/
def paramOf (series : Option Series) (column : String) : Param :=
  ((series.bind (·.first? column)).map Cell.param).getD .unset

/-- The series of a measurement. -/
def StatementResult.find? (r : StatementResult) (measurement : String) : Option Series :=
  r.series.find? (·.name == measurement)

def StatementResult.sample (r : StatementResult) (latency packetLoss : String) : Sample where
  label := paramOf ((r.find? latency).or (r.find? packetLoss)) "dpod_name"
  latency := paramOf (r.find? latency) "value"
  packetLoss := paramOf (r.find? packetLoss) "value"

/-- The sample in a response, by the names of the two measurements. -/
def Response.sample (r : Response) (latency packetLoss : String) : Except MetricsError Sample :=
  match r.error, r.results with
  | some e, _ => .error (.unavailable e)
  | none, [] => .error (.schema "no statement result")
  | none, result :: _ =>
    match result.error with
    | some e => .error (.unavailable e)
    | none => .ok (result.sample latency packetLoss)

end TrafficShaping.Metrics
