import TrafficShaping.Metrics.Influx

/-!
# What a statement says of its source

A statement names its source in a string literal, and whoever is sent the statement reads the literal back. The
source is a name from outside that may hold quotes and backslashes, at its end as well, so the question is where
the reader takes the literal to end and what it has read by then.

A name is escaped one character at a time, which comes to the same as two passes over the whole name: one that
doubles the backslashes, and then one that puts a backslash before each quote. The other order would not do, for
it would double those of the quotes too. The reader goes through a literal from left to right and takes what
a character of the name was written as in one step, so the induction is on the name, over anything that
follows the literal.
-/

namespace TrafficShaping.Metrics

/-! ## Reading a literal -/

/-- What a string literal stands for from some point in it on, and what follows it. A backslash before a backslash
or a quote stands for that and a quote ends the literal; everything else stands for itself. -/
def literalRest? : List Char → Option (List Char × List Char)
  | [] => none
  | '\'' :: cs => some ([], cs)
  | '\\' :: '\\' :: cs => (literalRest? cs).map fun r => ('\\' :: r.1, r.2)
  | '\\' :: '\'' :: cs => (literalRest? cs).map fun r => ('\'' :: r.1, r.2)
  | c :: cs => (literalRest? cs).map fun r => (c :: r.1, r.2)

/-- What the string literal at the beginning of a text stands for, and what follows it. -/
def literal? : List Char → Option (List Char × List Char)
  | '\'' :: cs => literalRest? cs
  | _ => none

theorem literalRest?_cons {c : Char} (hbackslash : c ≠ '\\') (hquote : c ≠ '\'') (cs : List Char) :
    literalRest? (c :: cs) = (literalRest? cs).map fun r => (c :: r.1, r.2) :=
  literalRest?.eq_5 c cs hquote (fun _ h => absurd h hbackslash) fun _ h => absurd h hbackslash

theorem literalRest?_escapedChar (c : Char) (cs : List Char) :
    literalRest? (escapedChar c ++ cs) = (literalRest? cs).map fun r => (c :: r.1, r.2) := by
  rw [escapedChar]
  split
  · next h =>
      rcases h with rfl | rfl
      · rfl
      · rfl
  · next h =>
      rw [not_or] at h
      exact literalRest?_cons h.1 h.2 cs

/-- A literal is read as the text that was escaped in it, whatever follows. -/
theorem literal?_escaped (source rest : List Char) :
    literal? ('\'' :: (source.flatMap escapedChar ++ '\'' :: rest)) = some (source, rest) := by
  rw [literal?]
  induction source with
  | nil => rfl
  | cons c source ih =>
      rw [List.flatMap_cons, List.append_assoc, literalRest?_escapedChar, ih]
      rfl

/-! ## Escaping in two passes -/

/-- A text with a backslash put before every copy of a character. -/
def backslashed (mark : Char) (cs : List Char) : List Char :=
  cs.flatMap fun c => if c = mark then ['\\', c] else [c]

theorem flatMap_escapedChar (cs : List Char) :
    cs.flatMap escapedChar = backslashed '\'' (backslashed '\\' cs) := by
  rw [backslashed, backslashed, List.flatMap_assoc]
  refine congrArg (List.flatMap · cs) (funext fun c => ?_)
  rw [escapedChar]
  by_cases hbackslash : c = '\\'
  · rw [hbackslash]
    rfl
  · by_cases hquote : c = '\''
    · rw [hquote]
      rfl
    · simp [hbackslash, hquote]

/-! ## Statements -/

/-- What a statement holds after the words before its literal. -/
def InfluxOptions.afterStart (source : String) : String := "'" ++ escaped source ++ "'" ++ statementEnd

theorem InfluxOptions.statement_eq (o : InfluxOptions) (source : String) :
    o.statement source = o.statementStart ++ afterStart source := by
  rw [statement, afterStart]
  simp only [String.append_assoc]

theorem InfluxOptions.toList_afterStart (source : String) :
    (afterStart source).toList =
      '\'' :: (source.toList.flatMap escapedChar ++ '\'' :: statementEnd.toList) := by
  simp [afterStart, escaped]

theorem literal?_afterStart (source : String) :
    literal? (InfluxOptions.afterStart source).toList =
      some (source.toList, InfluxOptions.statementEnd.toList) := by
  rw [InfluxOptions.toList_afterStart]
  exact literal?_escaped _ _

/-- A statement holds its source as a literal and nothing else: what comes after the words before the literal is
read as the source, and then the end of the statement. So different sources have different statements, and
the statement that is sent for a container holds the name that measurements know it by. -/
theorem statement_holds_source (o : InfluxOptions) (source : String) :
    let start := "SELECT * FROM \"" ++ o.latency ++ "\", \"" ++ o.packetLoss ++ "\" WHERE \"spod_name\" = "
    let ending := " ORDER BY time DESC LIMIT 1"
    (∃ rest, o.statement source = start ++ rest ∧
        literal? rest.toList = some (source.toList, ending.toList) ∧
        rest.toList = '\'' :: (backslashed '\'' (backslashed '\\' source.toList) ++ '\'' :: ending.toList)) ∧
      (∀ other, o.statement other = o.statement source → other = source) ∧
      ∀ c : Container, ∃ rest, (o.query c).parameters.lookup "q" = some (start ++ rest) ∧
        literal? rest.toList = some ((sourceName c).toList, ending.toList) := by
  intro start ending
  refine ⟨⟨_, o.statement_eq source, literal?_afterStart source, ?_⟩, ?_, ?_⟩
  · rw [InfluxOptions.toList_afterStart, flatMap_escapedChar]
    rfl
  · intro other h
    rw [o.statement_eq, o.statement_eq, String.append_right_inj] at h
    have hread := literal?_afterStart other
    rw [h, literal?_afterStart source] at hread
    exact String.toList_inj.mp (congrArg Prod.fst (Option.some.inj hread)).symm
  · intro c
    exact ⟨_, congrArg some (o.statement_eq (sourceName c)), literal?_afterStart (sourceName c)⟩

end TrafficShaping.Metrics
