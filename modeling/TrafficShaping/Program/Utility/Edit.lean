import TrafficShaping.Program.Regex
import TrafficShaping.Program.Utility.Lines

/-!
# Editing lines

`sed` runs a list of commands for every line that it reads. A command can be restricted to lines by their
numbers or by what they match. It works on the line, which may have become several, and on a second text
that is kept from line to line.
-/

namespace TrafficShaping.Program

namespace Edit

/-! ## Commands -/

/-- Which lines are meant. An expression that is empty is the one used last. -/
inductive Address where
  | line (n : Nat)
  | last
  | matching (r : Option Regex)
  | every (first step : Nat)

/-- Where a range of lines ends: at lines that are meant, so many lines later, or at a multiple. -/
inductive RangeEnd where
  | at (a : Address)
  | later (n : Nat)
  | multiple (n : Nat)

/-- A part of what replaces a match. -/
inductive Replacement where
  | char (c : Char)
  | group (n : Nat)

structure Substitution where
  expression : Option Regex
  replacement : List Replacement
  /-- Which match is the first to be replaced. -/
  first : Nat := 1
  all : Bool := false
  prints : Bool := false

/-- What a command does. A block tells where it ends. -/
inductive Verb where
  | block
  | close
  | append (s : String)
  | insert (s : String)
  | change (s : String)
  | jump (label : String)
  | jumpIfDone (label : String)
  | jumpUnlessDone (label : String)
  | label (name : String)
  | substitute (s : Substitution)
  | translate (pairs : List (Char × Char))
  | quit (code : Nat) (prints : Bool)
  | simple (c : Char)

structure Command where
  first : Option Address := none
  last : Option RangeEnd := none
  isNegated : Bool := false
  verb : Verb

/-! ## Reading commands -/

/-- A fault in a script, with how much of it was left. -/
abbrev Reader := EStateM (Nat × String) (List Char)

def fail {α : Type} (s : String) : Reader α := do throw ((← get).length, s)

def next? : Reader (Option Char) := do
  match ← get with
  | [] => return none
  | c :: cs => do
    set cs
    return some c

def takeWhile (p : Char → Bool) : Reader (List Char) := do
  let cs := (← get).takeWhile p
  modify (·.drop cs.length)
  return cs

def isBlank (c : Char) : Bool := c = ' ' || c = '\t'

def number? : Reader (Option Nat) := do return Number.natural? (← takeWhile Char.isDigit)

/-- A text up to a character that is not behind a backslash. Backslashes stay, except in front of that
character; a line break can be written with a letter. -/
def delimited? (stop : Char) : Bool → List Char → Option (List Char × List Char)
  | _, [] => none
  | inSet, '\\' :: c :: cs =>
    (delimited? stop inSet cs).map fun (text, rest) =>
      (if c = stop && !inSet then c :: text
        else if c = 'n' then '\n' :: text
        else if c = 't' then '\t' :: text
        else '\\' :: c :: text, rest)
  | inSet, c :: cs =>
    if c = stop && !inSet then some ([], cs)
    else
      let inSet := if inSet then c ≠ ']' else c = '['
      (delimited? stop inSet cs).map fun (text, rest) => (c :: text, rest)

/-- Takes a text up to a character. -/
def delimited (stop : Char) (isExpression : Bool) (fault : String) : Reader (List Char) := do
  let cs ← get
  let found :=
    match (if isExpression then delimited? stop false cs else none) with
    | some r => some r
    | none => plain stop cs
  match found with
  | some (text, rest) => do
    set rest
    return text
  | none => do
    set ([] : List Char)
    fail fault
where
  plain (stop : Char) : List Char → Option (List Char × List Char)
    | [] => none
    | '\\' :: c :: cs =>
      (plain stop cs).map fun (text, rest) =>
        (if c = stop then c :: text else if c = 'n' then '\n' :: text else '\\' :: c :: text, rest)
    | c :: cs => if c = stop then some ([], cs) else (plain stop cs).map fun (text, rest) => (c :: text, rest)

/-- Reads an expression. -/
def expression (extended ignoresCase : Bool) (text : List Char) : Reader (Option Regex) := do
  if text = [] then return none
  match Regex.read extended (String.ofList text) with
  | .ok r => return some (if ignoresCase then r.ignoringCase else r)
  | .error e => fail e.message

/-- Reads an address, if one comes next. -/
def address? (extended : Bool) : Reader (Option Address) := do
  match ← get with
  | '$' :: cs => do
    set cs
    return some .last
  | '/' :: cs => do
    set cs
    matching '/'
  | '\\' :: c :: cs => do
    set cs
    matching c
  | c :: _ => do
    if !c.isDigit then return none
    let n := (← number?).getD 0
    match ← get with
    | '~' :: cs => do
      set cs
      return some (.every n ((← number?).getD 0))
    | _ => return some (.line n)
  | [] => return none
where
  matching (stop : Char) : Reader (Option Address) := do
    let text ← delimited stop true "unterminated address regex"
    let letters ← takeWhile fun c => c = 'I' || c = 'M'
    return some (.matching (← expression extended (letters.contains 'I') text))

/-- Reads the end of a range. -/
def rangeEnd (extended : Bool) : Reader RangeEnd := do
  let _ ← takeWhile isBlank
  match ← get with
  | '+' :: cs => do
    set cs
    return .later ((← number?).getD 0)
  | '~' :: cs => do
    set cs
    return .multiple ((← number?).getD 0)
  | _ =>
    match ← address? extended with
    | some a => return .at a
    | none => do
      let _ ← next?
      fail "unexpected `,'"

/-- Reads what replaces a match. -/
def replacement : List Char → List Replacement
  | [] => []
  | '\\' :: c :: cs =>
    (if c.isDigit then .group (c.toNat - 48) else .char (if c = 't' then '\t' else c)) :: replacement cs
  | '&' :: cs => .group 0 :: replacement cs
  | c :: cs => .char c :: replacement cs

/-- Makes sure that nothing follows a command but what ends it. -/
def endOfCommand : Reader Unit := do
  let _ ← takeWhile isBlank
  match ← get with
  | [] | '\x7d' :: _ | '#' :: _ => return
  | c :: cs => do
    set cs
    if c ≠ ';' ∧ c ≠ '\n' then fail "extra characters after command"

/-- Reads the flags of a substitution, each of which takes a character. -/
def flags (s : Substitution) (ignoresCase : Bool) : Nat → Reader (Substitution × Bool)
  | 0 => return (s, ignoresCase)
  | n + 1 => do
    match ← get with
    | c :: cs =>
      if c = 'g' then do
        set cs
        flags { s with all := true } ignoresCase n
      else if c = 'p' then do
        set cs
        flags { s with prints := true } ignoresCase n
      else if c = 'i' ∨ c = 'I' then do
        set cs
        flags s true n
      else if c = 'm' ∨ c = 'M' then do
        set cs
        flags s ignoresCase n
      else if c.isDigit then do
        let k := (← number?).getD 0
        if k = 0 then fail "number option to `s' command may not be zero"
        flags { s with first := k } ignoresCase n
      else if isBlank c then do
        set cs
        flags s ignoresCase n
      else if c = ';' ∨ c = '\n' ∨ c = '\x7d' ∨ c = '#' then return (s, ignoresCase)
      else do
        set cs
        fail "unknown option to `s'"
    | [] => return (s, ignoresCase)

/-- Reads the text of a command: the rest of the line, and more lines after backslashes. -/
def textOfCommand : Reader String := do
  let _ ← takeWhile isBlank
  match ← get with
  | [] => fail ("expected \\ after `a', `c' or `i'")
  | '\\' :: '\n' :: cs => set cs
  | '\\' :: cs => do
    set cs
    let _ ← takeWhile isBlank
    match ← get with
    | '\n' :: cs => set cs
    | _ => pure ()
  | _ => pure ()
  let (text, rest) := go (← get)
  set rest
  return String.ofList text ++ "\n"
where
  go : List Char → List Char × List Char
    | [] => ([], [])
    | '\n' :: cs => ([], cs)
    | '\\' :: d :: cs => let (text, rest) := go cs; (d :: text, rest)
    | d :: cs => let (text, rest) := go cs; (d :: text, rest)

/-- Reads a label. -/
def label : Reader String := do
  let _ ← takeWhile isBlank
  return String.ofList (← takeWhile fun c => c ≠ '\n' && c ≠ ';' && c ≠ '\x7d' && !isBlank c)

/-- Reads what a command does. -/
def verb (extended : Bool) (c : Char) : Reader Verb := do
  match c with
  | '\x7b' => return .block
  | '\x7d' => do
    endOfCommand
    return .close
  | ':' => do
    let name ← label
    if name = "" then fail "\":\" lacks a label"
    return .label name
  | 'a' => return .append (← textOfCommand)
  | 'i' => return .insert (← textOfCommand)
  | 'c' => return .change (← textOfCommand)
  | 'b' => return .jump (← label)
  | 't' => return .jumpIfDone (← label)
  | 'T' => return .jumpUnlessDone (← label)
  | 's' => do
    let fault := "unterminated `s' command"
    match ← next? with
    | none => fail fault
    | some stop => do
      let text ← delimited stop true fault
      let newText ← delimited stop false fault
      let length := (← get).length
      let (s, ignoresCase) ← flags { expression := none, replacement := replacement newText } false length
      let r ← expression extended ignoresCase text
      let _ ← endOfCommand
      return .substitute { s with expression := r }
  | 'y' => do
    let fault := "unterminated `y' command"
    match ← next? with
    | none => fail fault
    | some stop => do
      let before ← delimited stop false fault
      let after ← delimited stop false fault
      if before.length ≠ after.length then fail "strings for `y' command are different lengths"
      endOfCommand
      return .translate (before.zip after)
  | 'q' | 'Q' => do
    let _ ← takeWhile isBlank
    let code := (← number?).getD 0
    endOfCommand
    return .quit code (c = 'q')
  | c =>
    if "=dDgGhHlnNpPxzF".toList.contains c then do
      endOfCommand
      return .simple c
    else fail ("unknown command: `" ++ c.toString ++ "'")

/-- Reads commands, each of which takes a character, with how many blocks are open. -/
def commands (extended : Bool) : Nat → Nat → Reader (List Command)
  | 0, _ => return []
  | n + 1, depth => do
    let _ ← takeWhile fun c => isBlank c || c = '\n' || c = ';'
    match ← get with
    | [] => do
      if depth ≠ 0 then throw (0, "unmatched `\x7b'")
      return []
    | '#' :: _ => do
      let _ ← takeWhile (· ≠ '\n')
      commands extended n depth
    | _ => do
      let first ← address? extended
      let _ ← takeWhile isBlank
      let last ← match first, ← get with
        | some _, ',' :: cs => do
          set cs
          pure (some (← rangeEnd extended))
        | _, _ => pure none
      let marks ← takeWhile fun c => isBlank c || c = '!'
      match ← next? with
      | none => fail "missing command"
      | some c => do
        if c = '\x7d' ∧ depth = 0 then fail "unexpected `\x7d'"
        if c = '\x7d' ∧ first.isSome then fail "\x7d doesn't want any addresses"
        let v ← verb extended c
        let depth := match v with
          | .block => depth + 1
          | .close => depth - 1
          | _ => depth
        return { first, last, isNegated := marks.contains '!', verb := v } :: (← commands extended n depth)

/-- Reads a script; otherwise what is wrong with it. -/
def read (extended : Bool) (script : String) : Except String (List Command) :=
  let cs := script.toList
  match (commands extended (cs.length + 1) 0).run cs with
  | .ok commands _ => .ok commands
  | .error (left, fault) _ =>
    let place := if fault = "unmatched `\x7b'" then 0 else cs.length - left
    .error ("-e expression #1, char " ++ Number.naturalText place ++ ": " ++ fault)

/-! ## Running -/

/-- Where editing is. Ranges that have begun are known by the place of their command, with the line at which
they end if that is known. -/
structure State where
  line : String := ""
  hasEnd : Bool := true
  number : Nat := 0
  rest : List String := []
  kept : String := ""
  out : List String := []
  appended : List String := []
  isDone : Bool := false
  ranges : List (Nat × Option Nat) := []
  lastExpression : Option Regex := none
  code : Nat := 0

namespace State

def isLast (s : State) : Bool := s.rest.isEmpty

def write (s : State) (text : String) : State := { s with out := text :: s.out }

/-- Writes the line, with an end unless the last line had none. -/
def writeLine (s : State) (line : String) : State :=
  s.write (line ++ (if s.hasEnd || !s.isLast then "\n" else ""))

/-- Writes what was to be appended behind the line. -/
def flush (s : State) : State := { s with out := s.appended ++ s.out, appended := [] }

/-- The next line, if there is one. -/
def advance? (s : State) : Option State :=
  match s.rest with
  | [] => none
  | l :: rest =>
    let hasEnd := l.endsWith "\n"
    some { s with
      line := if hasEnd then (l.dropEnd 1).toString else l
      hasEnd, rest
      number := s.number + 1 }

def isAt (s : State) : Address → Bool
  | .line n => s.number = n
  | .last => s.isLast
  | .matching r => ((r.or s.lastExpression).bind fun r => r.find? { left := s.line.toList }).isSome
  | .every first step => if step = 0 then s.number = first else first ≤ s.number && (s.number - first) % step = 0

/-- Whether the command at a place is for this line. -/
def selects (s : State) (place : Nat) (c : Command) : Bool × State :=
  match c.first, c.last with
  | none, _ => (!c.isNegated, s)
  | some a, none => (s.isAt a != c.isNegated, s)
  | some a, some stop =>
    let others := s.ranges.filter (·.1 ≠ place)
    let (isIn, s) : Bool × State :=
      match s.ranges.lookup place with
      | some (some n) =>
        if s.number < n then (true, s)
        else (s.number = n, { s with ranges := others })
      | some none =>
        match stop with
        | .at b => (true, if s.isAt b then { s with ranges := others } else s)
        | _ => (true, s)
      | none =>
        if s.isAt a then
          let upTo (n : Nat) : State := if n ≤ s.number then s else { s with ranges := (place, some n) :: others }
          match stop with
          | .at (.line n) => (true, upTo n)
          | .later n => (true, upTo (s.number + n))
          | .multiple n => (true, upTo (if n = 0 then 0 else (s.number + n - 1) / n * n))
          | .at _ => (true, { s with ranges := (place, none) :: others })
        else (false, s)
    (isIn != c.isNegated, s)

/-- What replaces a match. -/
def replaced (parts : List Replacement) (start stop : Regex.Place) : List Char :=
  let whole := start.left.take (start.left.length - stop.left.length)
  parts.flatMap fun
    | .char c => [c]
    | .group 0 => whole
    | .group n => (stop.groups.lookup n).getD []

/-- Replaces matches from a place on, of which the next one has a number, and says whether any was replaced.
An empty match right behind another match is none. -/
def substituteFrom (u : Substitution) (r : Regex) : Nat → Nat → Bool → Regex.Place → List Char × Bool
  | 0, _, _, p => (p.left, false)
  | fuel + 1, count, mayBeEmpty, p =>
    match r.find? p with
    | none => (p.left, false)
    | some (start, stop) =>
      let before := p.left.take (p.left.length - start.left.length)
      let isEmpty := stop.left.length = start.left.length
      if isEmpty && before = [] && !mayBeEmpty then
        let (rest, isHit) := if p.left = [] then ([], false) else substituteFrom u r fuel count true (p.advance 1)
        (p.left.take 1 ++ rest, isHit)
      else
        let isMeant := u.first ≤ count && (u.all || count = u.first)
        let text := if isMeant then replaced u.replacement start stop
          else start.left.take (start.left.length - stop.left.length)
        let (rest, isHit) :=
          if isMeant && !u.all || stop.left = [] && isEmpty then (stop.left, false)
          else if isEmpty then
            let (rest, isHit) := substituteFrom u r fuel (count + 1) true (stop.advance 1)
            (stop.left.take 1 ++ rest, isHit)
          else substituteFrom u r fuel (count + 1) false stop
        (before ++ text ++ rest, isMeant || isHit)

/-- Substitutes in the line. -/
def substitute (s : State) (u : Substitution) : State :=
  match u.expression.or s.lastExpression with
  | none => s
  | some r =>
    let s := { s with lastExpression := some r }
    let (text, isHit) := substituteFrom u r (s.line.length + 2) 1 true { left := s.line.toList }
    if !isHit then s
    else
      let s := { s with line := String.ofList text, isDone := true }
      if u.prints then s.writeLine s.line else s

/-- The line up to its first line break, and what is behind that if there is one. -/
def firstPart (s : State) : String × Option String :=
  match Text.splitAt '\n' s.line with
  | [] | [_] => (s.line, none)
  | first :: rest => (first, some (Text.joinWith "\n" rest))

end State

/-- How the commands for a line end: with the line written or not, with another run for what is left of it,
or with the end of editing. -/
inductive Ending where
  | written
  | deleted
  | restarted
  | stopped (prints : Bool)

/-- The place behind the block that opens in front of a place. -/
def behindBlock (commands : List Command) : Nat → Nat → Nat → Nat
  | 0, _, place => place
  | fuel + 1, depth, place =>
    let verb : Option Verb := (commands[place]?).map (·.verb)
    match verb with
    | none => place
    | some .block => behindBlock commands fuel (depth + 1) (place + 1)
    | some .close => if depth = 0 then place + 1 else behindBlock commands fuel (depth - 1) (place + 1)
    | some _ => behindBlock commands fuel depth (place + 1)

/-- The place of a label; the end if there is none. -/
def placeOf (commands : List Command) (name : String) : Nat :=
  (commands.findIdx? fun c => match c.verb with
    | .label n => n = name && name ≠ ""
    | _ => false).getD commands.length

/-- Runs commands from a place on, at most so many. -/
def runFrom (commands : List Command) (quiet : Bool) : Nat → Nat → State → State × Ending
  | 0, _, s => (s, .stopped false)
  | fuel + 1, place, s =>
    match commands[place]? with
    | none => (s, .written)
    | some c =>
      let (isMeant, s) := s.selects place c
      let go (s : State) : State × Ending := runFrom commands quiet fuel (place + 1) s
      if !isMeant then
        match c.verb with
        | .block => runFrom commands quiet fuel (behindBlock commands commands.length 0 (place + 1)) s
        | _ => go s
      else match c.verb with
        | .block | .close | .label _ => go s
        | .append t => go { s with appended := t :: s.appended }
        | .insert t => go (s.write t)
        | .change t =>
          let isOver := c.last.isNone || c.isNegated || (s.ranges.lookup place).isNone
          (if isOver then s.write t else s, .deleted)
        | .jump l => runFrom commands quiet fuel (placeOf commands l) s
        | .jumpIfDone l =>
          if s.isDone then runFrom commands quiet fuel (placeOf commands l) { s with isDone := false } else go s
        | .jumpUnlessDone l =>
          if s.isDone then go { s with isDone := false } else runFrom commands quiet fuel (placeOf commands l) s
        | .substitute u => go (s.substitute u)
        | .translate pairs =>
          go { s with line := s.line.map fun ch => (pairs.lookup ch).getD ch }
        | .quit code prints => ({ s with code }, .stopped prints)
        | .simple 'd' => (s, .deleted)
        | .simple 'D' =>
          match s.firstPart with
          | (_, none) => (s, .deleted)
          | (_, some rest) => ({ s with line := rest }, .restarted)
        | .simple 'p' => go (s.writeLine s.line)
        | .simple 'P' => go (s.write (s.firstPart.1 ++ "\n"))
        | .simple '=' => go (s.write (Number.naturalText s.number ++ "\n"))
        | .simple 'g' => go { s with line := s.kept }
        | .simple 'G' => go { s with line := s.line ++ "\n" ++ s.kept }
        | .simple 'h' => go { s with kept := s.line }
        | .simple 'H' => go { s with kept := s.kept ++ "\n" ++ s.line }
        | .simple 'x' => go { s with line := s.kept, kept := s.line }
        | .simple 'z' => go { s with line := "" }
        | .simple 'n' =>
          let t := (if quiet then s else s.writeLine s.line)
          match t.flush.advance? with
          | some s => go s
          | none => (s, .stopped true)
        | .simple 'N' =>
          match s.flush.advance? with
          | some t => go { t with line := s.line ++ "\n" ++ t.line }
          | none => (s, .stopped true)
        | .simple _ => go s

/-- Runs the commands for one line after the other, at most so many times. -/
def runLines (commands : List Command) (quiet : Bool) : Nat → Bool → State → State
  | 0, _, s => s
  | fuel + 1, keepsLine, s =>
    match (if keepsLine then some s else s.advance?) with
    | none => s
    | some s =>
      let (s, ending) := runFrom commands quiet 1000000 0 { s with isDone := s.isDone && keepsLine }
      let shown (prints : Bool) : State := (if prints && !quiet then s.writeLine s.line else s).flush
      match ending with
      | .written => runLines commands quiet fuel false (shown true)
      | .deleted => runLines commands quiet fuel false s.flush
      | .restarted => runLines commands quiet fuel true s.flush
      | .stopped prints => { shown prints with rest := [] }

/-- Edits a text: what comes of it, and the code. -/
def edit (commands : List Command) (quiet : Bool) (text : String) : String × Nat :=
  let ls := Utility.wholeLines text
  let s := runLines commands quiet (text.length + ls.length + 1) false { rest := ls }
  (String.join s.out.reverse, s.code)

end Edit

namespace Utility

def sed : Utility := withOptions "sed" 1
  { letters := "nrEe:f:sizul:"
    names := [("quiet", 'n'), ("silent", 'n'), ("regexp-extended", 'E'), ("expression", 'e'), ("file", 'f'),
      ("in-place", 'i')] }
  fun c g =>
    let piece (o : Char × String) : Except String String :=
      if o.1 = 'e' then .ok o.2
      else if o.2 = "-" then .ok (Text.trimEndOf '\n' c.input)
      else (do return Text.trimEndOf '\n' (← c.disk.read (← c.disk.find c.directory o.2) Disk.enough) :
        Except Errno String).mapError fun e => "couldn't open file " ++ o.2 ++ ": " ++ e.description
    let pieces := g.options.filter fun o => o.1 = 'e' || o.1 = 'f'
    let (script, files) : Option (Except String String) × List String :=
      match pieces, g.operands with
      | [], script :: files => (some (.ok script), files)
      | [], [] => (none, [])
      | pieces, files => (some ((pieces.mapM piece).map (Text.joinWith "\n")), files)
    match script with
    | none => failing 1 "Usage: sed [OPTION]... \x7bscript-only-if-no-other-script\x7d [input-file]...\n"
    | some (.error e) => failing 4 ("sed: " ++ e)
    | some (.ok script) =>
      match Edit.read (g.has 'E' || g.has 'r') script with
      | .error e => failing 1 ("sed: " ++ e)
      | .ok commands =>
        let w : Wording := {
          closed := fun file reason => "can't read " ++ file ++ ": " ++ reason
          unreadable := fun file reason => (if g.has 'i' then "couldn't edit " ++ file ++ ": not a regular file"
            else "read error on " ++ file ++ ": " ++ reason) }
        let read := sources "sed" w Disk.enough c (filesOf files)
        let failed := complaints read ≠ []
        let r : Result := {
          code := if failed then 2 else 0
          err := lines (complaints read)
          hasRead := (filesOf files).contains "-" }
        if g.has 'i' then
          (texts read).foldl (fun r t =>
            let d := r.disk.getD c.disk
            let text := (Edit.edit commands (g.has 'n') t.2).1
            match d.find c.directory t.1 with
            | .ok l => { r with disk := ((d.write l text).toOption.or r.disk) }
            | .error _ => r) r
        else
          let (out, code) := Edit.edit commands (g.has 'n') (String.join ((texts read).map (·.2)))
          { r with out, code := if code = 0 then r.code else code }

end Utility

end TrafficShaping.Program
