import TrafficShaping.Number.Decimal
import TrafficShaping.Program.Script
import TrafficShaping.Text.Blank

/-!
# Reading shell scripts

A script is read from left to right, and what a character means depends on where it stands: outside of
quotes, in them, in the braces of an expansion, in a here document, in arithmetic. Words hold scripts and
scripts hold words, so one reader calls the other; fuel, of which a text needs no more than a few units per
character, stands for the depth of that.

A word may be an alias of a text. Where a command starts the text is put in the place of the word and read as
if it stood there; if it ends with a blank, so is the text of the word behind it. No alias stands for anything
in its own text, so this comes to an end.

A here document is announced in one line and read behind the end of it, so it goes by a number, which is
looked up among the documents that have been read.

A script is read and run line by line, so the commands before the first one that cannot be read are commands
all the same, and an alias counts from the next line on. `Source.line?` reads one.
-/

namespace TrafficShaping.Program

/-- What is wrong with a script. -/
inductive Unreadable where
  | unexpected (found : String) (wanted : Option String)
  | openQuote
  | openBackquote
  | openBrace
  | openArithmetic
  | loopName
  | functionName
deriving DecidableEq

def Unreadable.message : Unreadable → String
  | .unexpected found none => found ++ " unexpected"
  | .unexpected found (some wanted) => found ++ " unexpected (expecting " ++ wanted ++ ")"
  | .openQuote => "Unterminated quoted string"
  | .openBackquote => "EOF in backquote substitution"
  | .openBrace => "Missing '\x7d'"
  | .openArithmetic => "Missing '))'"
  | .loopName => "Bad for loop variable"
  | .functionName => "Bad function name"

/-- The text of an alias that is being read: how much is left behind it, and whether it ends with a blank. -/
structure Inserted where
  name : String
  behind : Nat
  endsBlank : Bool

/-- A here document that is still to be read: its number, the line that ends it, whether tabs in front of its
lines are dropped, and whether it is expanded. -/
structure Announced where
  number : Nat
  ending : List Char
  dropsTabs : Bool
  isExpanded : Bool

/-- What has not been read, and the line that it starts in. -/
structure Source where
  rest : List Char
  line : Nat := 1
  aliases : List (String × String) := []
  inserted : List Inserted := []
  /-- How much is left where a word does not structure the script although it could. -/
  plainAt : Option Nat := none
  /-- The last word that has been read. -/
  lastWord : Word := []
  /-- Whether expansions are not noticed, as in what ends a here document. -/
  isLiteral : Bool := false
  /-- The here document that is being read. -/
  document : Option Announced := none
  /-- What follows the end of that document once it has come; the rest is empty then. -/
  behind : List Char := []
  /-- The here documents to be read behind the end of this line, the last one first. -/
  announced : List Announced := []
  /-- How many here documents have been announced. -/
  count : Nat := 0
  /-- The here documents that have been read, by their numbers. -/
  documents : List (Nat × Word) := []

abbrev Reader := EStateM (Nat × Unreadable) Source

namespace Reader

def fail {α : Type} (u : Unreadable) : Reader α := do throw ((← get).line, u)

def rest : Reader (List Char) := return (← get).rest

/-- Takes a character. -/
def skip : Reader Unit := modify fun s =>
  match s.rest with
  | '\n' :: cs => { s with rest := cs, line := s.line + 1 }
  | _ :: cs => { s with rest := cs }
  | [] => s

def skipMany : Nat → Reader Unit
  | 0 => return
  | n + 1 => do skip; skipMany n

/-- The characters in front that satisfy `p`, how many lines are joined among them and behind them, and what is
left. -/
def joinedWhile (p : Char → Bool) : List Char → List Char × Nat × List Char
  | '\\' :: '\n' :: cs =>
    let (taken, lines, left) := joinedWhile p cs
    (taken, lines + 1, left)
  | c :: cs =>
    if p c then
      let (taken, lines, left) := joinedWhile p cs
      (c :: taken, lines, left)
    else ([], 0, c :: cs)
  | [] => ([], 0, [])

/-- Takes characters as long as they satisfy `p`, and joins lines among them and behind them. -/
def takeWhile (p : Char → Bool) : Reader String := do
  let s ← get
  let (taken, lines, rest) := joinedWhile p s.rest
  set { s with rest, line := s.line + lines }
  return String.ofList taken

/-- Joins lines where the first one ends here. -/
def joinLines : Reader Unit := do
  let _ ← takeWhile fun _ => false

/-- Takes a character of which the line is not counted. -/
def skipUncounted : Reader Unit := modify fun s => { s with rest := s.rest.drop 1 }

/-! ## Between words -/

/-- What precedes a word and says nothing: blanks, comments and joined lines, of which the number is
counted. -/
def dropBlanks : List Char → Nat × List Char
  | ' ' :: cs | '\t' :: cs => dropBlanks cs
  | '\\' :: '\n' :: cs => let (n, cs) := dropBlanks cs; (n + 1, cs)
  | '#' :: cs => (0, cs.dropWhile (· ≠ '\n'))
  | cs => (0, cs)

def skipBlanks : Reader Unit := modify fun s =>
  let (lines, cs) := dropBlanks s.rest
  { s with rest := cs, line := s.line + lines }

inductive Symbol where
  | finish
  | newline
  | semicolon
  | caseEnd
  | and
  | background
  | or
  | pipe
  | openParenthesis
  | closeParenthesis
deriving DecidableEq

def Symbol.text : Symbol → String
  | .finish => "end of file"
  | .newline => "newline"
  | .semicolon => "\";\""
  | .caseEnd => "\";;\""
  | .and => "\"&&\""
  | .background => "\"&\""
  | .or => "\"||\""
  | .pipe => "\"|\""
  | .openParenthesis => "\"(\""
  | .closeParenthesis => "\")\""

/-- The symbol that comes next, with its length. -/
def symbolIn? : List Char → Option (Symbol × Nat)
  | [] => some (.finish, 0)
  | '\n' :: _ => some (.newline, 1)
  | ';' :: ';' :: _ => some (.caseEnd, 2)
  | ';' :: _ => some (.semicolon, 1)
  | '&' :: '&' :: _ => some (.and, 2)
  | '&' :: _ => some (.background, 1)
  | '|' :: '|' :: _ => some (.or, 2)
  | '|' :: _ => some (.pipe, 1)
  | '(' :: _ => some (.openParenthesis, 1)
  | ')' :: _ => some (.closeParenthesis, 1)
  | _ => none

def symbol? : Reader (Option Symbol) := do
  skipBlanks
  return (symbolIn? (← rest)).map (·.1)

/-- Takes a symbol if it comes next. -/
def accept (s : Symbol) : Reader Bool := do
  skipBlanks
  match symbolIn? (← rest) with
  | some (t, n) => if s = t then do skipMany n; return true else return false
  | none => return false

/-- Whether a character ends a word. -/
def endsWord (c : Char) : Bool := " \t\n;&|()<>".toList.contains c

/-- The commands of a shell that no function takes the place of. -/
def specialCommands : List String :=
  ["break", "continue", "eval", "exec", "exit", "export", "local", "readonly", "return", "set", "shift", "times",
    "trap", "unset"]

/-- The words that structure a script. -/
def reservedWords : List String :=
  ["!", "case", "do", "done", "elif", "else", "esac", "fi", "for", "if", "in", "then", "until", "while",
    "\x7b", "\x7d"]

/-- The word that comes next, if none of it is quoted or expanded. -/
def plainIn? (cs : List Char) : Option String :=
  let w := cs.takeWhile fun c => !endsWord c && !"\\'\"$`".toList.contains c
  match w, cs.drop w.length with
  | [], _ => none
  | w, [] => some (String.ofList w)
  | w, c :: _ => if endsWord c then some (String.ofList w) else none

def reserved? : Reader (Option String) := do
  skipBlanks
  let s ← get
  return if s.plainAt = some s.rest.length then none else (plainIn? s.rest).filter reservedWords.contains

/-- The operator of a redirection that comes next, and its length. It may have a digit in front. -/
def redirectIn? (cs : List Char) : Option (List Char × Nat) :=
  let digits := (cs.take 1).filter Char.isDigit
  let cs := cs.drop digits.length
  let operators := ["<<-", "<<", "<&", "<>", "<", ">>", ">&", ">|", ">"].map String.toList
  (operators.find? (·.isPrefixOf cs)).map fun o => (o, digits.length + o.length)

/-- What comes next, as a complaint tells it, where no word structures the script. -/
def foundIn (cs : List Char) : String :=
  match symbolIn? cs, redirectIn? cs with
  | some (s, _), _ => s.text
  | none, some _ => "redirection"
  | none, none => "word"

/-- Refuses what comes next when it has been taken with a reader of tokens. Where a word may structure the
script it is told. -/
def unexpected {α : Type} (token : Reader Unit) (wanted : Option String) : Reader α := do
  let reserved ← reserved?
  let found := reserved.elim (foundIn (← rest)) fun w => "\"" ++ w ++ "\""
  token
  fail (.unexpected found wanted)

/-- Refuses what comes next, where all words are alike. -/
def unexpectedWord {α : Type} (token : Reader Unit) (wanted : String) : Reader α := do
  skipBlanks
  let found := foundIn (← rest)
  token
  fail (.unexpected found (some wanted))

/-- Takes a reserved word. -/
def acceptWord (w : String) : Reader Bool := do
  if (← reserved?) = some w then do
    skipMany w.length
    modify fun s => { s with lastWord := w.toList.map (.char · false) }
    return true
  else return false

def expectWord (token : Reader Unit) (w : String) : Reader Unit := do
  if !(← acceptWord w) then unexpected token (some ("\"" ++ w ++ "\""))

def expectClose (token : Reader Unit) : Reader Unit := do
  if !(← accept .closeParenthesis) then unexpected token (some "\")\"")

/-- Takes the parenthesis that closes a list of patterns or what is between a function's name and its body. -/
def expectCloseWord (token : Reader Unit) : Reader Unit := do
  if !(← accept .closeParenthesis) then unexpectedWord token "\")\""

/-! ## Aliases -/

/-- Puts the text of an alias in the place of its name if that comes next, and goes on with the first word of
the text. Where no command starts it has to stand behind a text that ends with a blank. -/
def replaceAliases : Nat → Bool → Reader Unit
  | 0, _ => return
  | n + 1, startsCommand => do
    let before := (← rest).length
    skipBlanks
    let s ← get
    let here := s.rest.length
    let follows (i : Inserted) : Bool := i.endsBlank && here ≤ i.behind && i.behind < before
    if !startsCommand && !s.inserted.any follows then return
    let name := (plainIn? s.rest).getD ""
    let isOpen (i : Inserted) : Bool := i.behind < here
    if startsCommand && reservedWords.contains name || s.inserted.any fun i => i.name = name && isOpen i then return
    match s.aliases.lookup name with
    | none => return
    | some text => do
      let behind := s.rest.drop name.length
      let endsBlank := text.toList.getLast?.any fun c => c = ' ' || c = '\t'
      set { s with
        rest := text.toList ++ behind
        inserted := ⟨name, behind.length, endsBlank⟩ :: s.inserted.filter isOpen }
      replaceAliases n true

/-- Puts texts in the place of aliases as `replaceAliases` does, if there are aliases. -/
def expandAliases (fuel : Nat) (startsCommand : Bool) : Reader Unit := do
  if (← get).aliases ≠ [] then replaceAliases fuel startsCommand

/-! ## Here documents -/

/-- What follows a text, if a line starts with it and has no more. -/
def behindLine? : List Char → List Char → Option (List Char)
  | [], '\n' :: cs => some cs
  | [], [] => some []
  | e :: es, c :: cs => if e = c then behindLine? es cs else none
  | _, _ => none

/-- Sees at the start of a line whether it ends the here document that is being read. -/
def meetLine : Reader Unit := modify fun s =>
  match s.document with
  | none => s
  | some d =>
    let cs := if d.dropsTabs then s.rest.dropWhile (· = '\t') else s.rest
    match behindLine? d.ending cs with
    | some behind => { s with rest := [], behind, line := s.line + 1 }
    | none => { s with rest := cs }

/-- Reads the lines of a here document that is not expanded. -/
def plainLines : Nat → List Char → Reader (List Char)
  | 0, text => return text
  | n + 1, text => do
    meetLine
    let cs ← rest
    if cs = [] then return text
    let line := cs.takeWhile (· ≠ '\n')
    let ending := (cs.drop line.length).take 1
    skipMany (line.length + ending.length)
    plainLines n (text ++ line ++ ending)

/-- Announces a here document, and returns its number. -/
def announce (ending : List Char) (dropsTabs isExpanded : Bool) : Reader Nat := do
  let s ← get
  set { s with
    announced := ⟨s.count, ending, dropsTabs, isExpanded⟩ :: s.announced
    count := s.count + 1 }
  return s.count

/-- Takes the here documents that have been announced for empty ones, since the text ends here. -/
def endDocuments : Reader Unit := modify fun s =>
  { s with documents := s.announced.map (fun d => (d.number, [])) ++ s.documents, announced := [] }

/-- Reads something that holds here documents of its own. -/
def apart {α : Type} (r : Reader α) : Reader α := do
  let outer ← get
  set { outer with document := none, announced := [], isLiteral := false }
  let a ← r
  endDocuments
  modify fun s => { s with document := outer.document, announced := outer.announced, isLiteral := outer.isLiteral }
  return a

/-! ## Words -/

/-- Where a part of a word stands. -/
inductive Place where
  | bare
  | quotes
  | braces (inQuotes : Bool)
  | document
  | arithmetic (depth : Nat)

def Place.isQuoted : Place → Bool
  | .bare => false
  | .braces q => q
  | .quotes | .document | .arithmetic _ => true

/-- What a backslash takes the meaning of; outside of quotes everything. -/
def Place.escapes (p : Place) (c : Char) : Bool :=
  match p with
  | .bare | .braces false => true
  | .quotes => "$`\"\\".toList.contains c
  | .braces true => "$`\"\\\x7d".toList.contains c
  | .document | .arithmetic _ => "$`\\".toList.contains c

/-- The text between backquotes, without the backslashes that it needs there, and how much of the source it
takes; none if it does not end. -/
def backquoted? (inQuotes : Bool) : List Char → Option (List Char × Nat)
  | [] => none
  | '`' :: _ => some ([], 1)
  | '\\' :: c :: cs =>
    (backquoted? inQuotes cs).map fun (text, n) =>
      (if "$`\\".toList.contains c || inQuotes && c = '\"' then c :: text else '\\' :: c :: text, n + 2)
  | c :: cs => (backquoted? inQuotes cs).map fun (text, n) => (c :: text, n + 1)

/-- Reads a text of its own with a reader, and goes on where it was. -/
def inside {α : Type} (cs : List Char) (r : Reader α) : Reader α := do
  let outer ← get
  set ({
    rest := cs, aliases := outer.aliases, count := outer.count
    documents := outer.documents : Source })
  let a ← r
  endDocuments
  modify fun s => { outer with count := s.count, documents := s.documents }
  return a

/-- The name and the value of a word that is an assignment. -/
def assignment? (w : Word) : Option (String × Word) :=
  let name := w.takeWhile fun
    | .char c false => isNameChar c
    | _ => false
  match Word.plain? name, w.drop name.length with
  | some n, .char '=' false :: value => if isName n then some (n, value) else none
  | _, _ => none

/-- The name of a parameter after a dollar sign. -/
def parameterName : Reader (Option String) := do
  match (← rest).head? with
  | none => return none
  | some c =>
    if isNameStart c then return some (← takeWhile isNameChar)
    else if isSpecial c then do skip; return some c.toString
    else return none

/-- Whether a text between quotes is nothing but the arguments, of which each becomes a field. -/
def isArguments : Word → Bool
  | [.parameter "@" .value true] => true
  | _ => false

/-- What a word of a simple command is. -/
structure Simple where
  assignments : List (String × Word) := []
  words : List Word := []
  redirects : List Redirect := []
  line : Option Nat := none

/-- Refuses a text in which quotes are open. In a here document nothing is quoted by them. -/
def failInQuotes {α : Type} : Reader α := do
  fail (if (← get).document.isSome then .openBrace else .openQuote)

mutual

/-- Reads parts of a word up to where it ends, which is left if it belongs to what follows. -/
def parts : Nat → Place → List Part → Reader Word
  | 0, _, _ => fail .openQuote
  | fuel + 1, p, done => do
    let isLiteral := (← get).isLiteral
    match ← rest with
    | [] =>
      match p with
      | .bare | .document => return done.reverse
      | .quotes | .braces true => failInQuotes
      | .braces false => fail .openBrace
      | .arithmetic _ => fail .openArithmetic
    | '\\' :: '\n' :: _ => do
      skipMany 2
      parts fuel p done
    | '\\' :: c :: _ => do
      if p.escapes c then do skipMany 2; parts fuel p (.char c true :: done)
      else do skip; parts fuel p (.char '\\' p.isQuoted :: done)
    | '$' :: _ => do
      skip
      let ps ← if isLiteral then pure [.char '$' p.isQuoted] else dollar fuel p.isQuoted
      parts fuel p (ps.reverse ++ done)
    | '`' :: _ => do
      skip
      let ps ← if isLiteral then pure [.char '`' true] else backquote fuel p.isQuoted
      parts fuel p (ps.reverse ++ done)
    | c :: _ =>
      match p, c with
      | .bare, '\'' | .braces false, '\'' => do
        skip
        let text := (← rest).takeWhile (· ≠ '\'')
        skipMany text.length
        if (← rest) = [] then failInQuotes
        skip
        parts fuel p ((text.map (.char · true)).reverse ++ .empty :: done)
      | .quotes, '\"' => do skip; return done.reverse
      | .bare, '\"' | .braces _, '\"' => do
        skip
        let inner ← parts fuel .quotes []
        parts fuel p (inner.reverse ++ (if isArguments inner then done else .empty :: done))
      | .braces _, '\x7d' => do skip; return done.reverse
      | .arithmetic depth, '(' => do skip; parts fuel (.arithmetic (depth + 1)) (.char c true :: done)
      | .arithmetic (depth + 1), ')' => do skip; parts fuel (.arithmetic depth) (.char c true :: done)
      | .arithmetic 0, ')' => do
        skip
        if (← rest).head? = some ')' then do skip; return done.reverse
        else parts fuel p (.char c true :: done)
      | p, c => do
        if (match p with
          | .bare => endsWord c
          | _ => false) then return done.reverse
        else do
          skip
          if c = '\n' then meetLine
          parts fuel p (.char c p.isQuoted :: done)

/-- Reads what follows a dollar sign. -/
def dollar : Nat → Bool → Reader Word
  | 0, _ => fail .openQuote
  | fuel + 1, q => do
    joinLines
    match ← rest with
    | '(' :: '(' :: _ => do
      skipMany 2
      return [.arithmetic (← parts fuel (.arithmetic 0) []) q]
    | '(' :: _ => do
      skip
      let s ← apart do
        let s ← commands fuel true
        expectClose (token fuel)
        return s
      return [.output s q]
    | '\x7b' :: _ => do
      skip
      braced fuel q
    | _ =>
      match ← parameterName with
      | some name => return [.parameter name .value q]
      | none => return [.char '$' q]

/-- Reads what follows a dollar sign and a brace: a number sign for a length, a name, and what is done with the
parameter. Where this has no meaning the text is still read up to the other brace. -/
def braced : Nat → Bool → Reader Word
  | 0, _ => fail .openBrace
  | fuel + 1, q => do
    let meaningless : Reader Word := do
      let _ ← parts fuel (.braces q) []
      return [.parameter "" .meaningless q]
    let lengthOf (name : String) : Reader Word := do
      if (← rest).head? = some '\x7d' then do skip; return [.parameter name .length q]
      else meaningless
    joinLines
    match ← rest with
    | [] => meaningless
    | '#' :: _ => do
      skip
      joinLines
      match ← rest with
      | [] | '\x7d' :: _ => formed fuel q "#"
      | c :: cs =>
        if isNameStart c then lengthOf (← takeWhile isNameChar)
        else if c.isDigit then lengthOf (← takeWhile Char.isDigit)
        else if cs.head? = some '\x7d' then do
          skipUncounted
          if isSpecial c then lengthOf c.toString else meaningless
        else formed fuel q "#"
    | c :: _ =>
      if isNameStart c then do
        let name ← takeWhile isNameChar
        formed fuel q name
      else if c.isDigit then do
        let name ← takeWhile Char.isDigit
        formed fuel q name
      else if c = '\x7d' then meaningless
      else do
        skipUncounted
        if isSpecial c then formed fuel q c.toString else meaningless

/-- Reads what is done with a parameter between braces. -/
def formed : Nat → Bool → String → Reader Word
  | 0, _, _ => fail .openBrace
  | fuel + 1, q, name => do
    let form (length : Nat) (p : Place) (f : Word → Form) : Reader Word := do
      for _ in List.range length do skipUncounted
      return [.parameter name (f (← parts fuel p [])) q]
    let kind? (c : Char) : Option Fallback :=
      [('-', .value), ('=', .assign), ('?', .complain), ('+', .alternative)].lookup c
    joinLines
    match ← rest with
    | '\x7d' :: _ => do skip; return [.parameter name .value q]
    | '%' :: '%' :: _ => form 2 (.braces false) (.trimmed true true)
    | '%' :: _ => form 1 (.braces false) (.trimmed true false)
    | '#' :: '#' :: _ => form 2 (.braces false) (.trimmed false true)
    | '#' :: _ => form 1 (.braces false) (.trimmed false false)
    | ':' :: '\x7d' :: _ => do
      skipMany 2
      return .parameter name .value q :: (← parts fuel (.braces q) [])
    | ':' :: c :: _ =>
      match kind? c with
      | some kind => form 2 (.braces q) (.fallback kind true)
      | none => form 2 (.braces q) fun _ => .meaningless
    | c :: _ =>
      match kind? c with
      | some kind => form 1 (.braces q) (.fallback kind false)
      | none => form 1 (.braces q) fun _ => .meaningless
    | [] => form 0 (.braces q) fun _ => .meaningless

/-- Reads what follows a backquote. What follows the commands between backquotes is of no consequence. -/
def backquote : Nat → Bool → Reader Word
  | 0, _ => fail .openBackquote
  | fuel + 1, q => do
    match backquoted? q (← rest) with
    | none => do
      skipMany (← rest).length
      fail .openBackquote
    | some (text, n) => do
      skipMany n
      return [.output (← inside text (commands fuel true)) q]

/-- Takes what comes next, a word or the end of a line. -/
def token : Nat → Reader Unit
  | 0 => return
  | fuel + 1 => do
    skipBlanks
    if foundIn (← rest) = "word" then do
      let _ ← parts fuel .bare []
    else do
      let _ ← accept .newline

/-- Reads a word, which has to be there. -/
def word : Nat → Reader Word
  | 0 => fail .openQuote
  | fuel + 1 => do
    skipBlanks
    let cs ← rest
    if (redirectIn? cs).isSome || cs.head?.all endsWord then unexpected (token fuel) none
    let w ← parts fuel .bare []
    modify fun s => { s with lastWord := w }
    return w

/-- Reads a redirection if one comes next. -/
def redirect? : Nat → Reader (Option Redirect)
  | 0 => return none
  | fuel + 1 => do
    skipBlanks
    let cs ← rest
    match redirectIn? cs with
    | none => return none
    | some (operator, length) => do
      skipMany length
      let number (standard : Nat) : Nat :=
        if length = operator.length then standard else (Number.natural? (cs.take 1)).getD standard
      match operator with
      | ['<', '<', '-'] => return some (← document fuel (number 0) true)
      | ['<', '<'] => return some (← document fuel (number 0) false)
      | ['<', '&'] => return some (.stream (number 0) (← word fuel))
      | ['<', '>'] => return some (.file (number 0) .both (← word fuel))
      | ['<'] => return some (.file (number 0) .read (← word fuel))
      | ['>', '>'] => return some (.file (number 1) .append (← word fuel))
      | ['>', '&'] => return some (.stream (number 1) (← word fuel))
      | ['>', '|'] => return some (.file (number 1) .overwrite (← word fuel))
      | _ => return some (.file (number 1) .write (← word fuel))

/-- Reads what ends a here document. The document is expanded if no part of that is quoted. -/
def document : Nat → Nat → Bool → Reader Redirect
  | 0, _, _ => fail .openQuote
  | fuel + 1, n, dropsTabs => do
    modify fun s => { s with isLiteral := true }
    let w ← word fuel
    modify fun s => { s with isLiteral := false }
    let ending := w.filterMap fun
      | .char c _ => some c
      | _ => none
    return .text n (← announce ending dropsTabs (Word.plain? w).isSome)

/-- Reads the here documents that have been announced. -/
def documents : Nat → List Announced → Reader Unit
  | 0, _ | _, [] => return
  | fuel + 1, d :: ds => do
    modify fun s => { s with document := some d }
    let w ←
      if d.isExpanded then do
        meetLine
        parts fuel .document []
      else pure (((← plainLines fuel []).map (.char · true)))
    modify fun s => { s with
      rest := s.rest ++ s.behind
      behind := []
      document := none
      documents := (d.number, w) :: s.documents }
    documents fuel ds

/-- Takes the end of a line, and the here documents behind it. -/
def newline : Nat → Reader Bool
  | 0 => return false
  | fuel + 1 => do
    if !(← accept .newline) then return false
    let ds := (← get).announced.reverse
    modify fun s => { s with announced := [] }
    documents fuel ds
    return true

/-- Takes what separates two commands. -/
def separator : Nat → Reader Bool
  | 0 => return false
  | fuel + 1 => do
    if ← accept .semicolon then return true else newline fuel

/-- Takes ends of lines. -/
def newlines : Nat → Reader Unit
  | 0 => return
  | fuel + 1 => do if ← newline fuel then newlines fuel

/-- Reads redirections. A word behind them does not structure the script. -/
def redirects : Nat → Reader (List Redirect)
  | 0 => return []
  | fuel + 1 => do
    match ← redirect? fuel with
    | none => return []
    | some r => do
      skipBlanks
      modify fun s => { s with plainAt := some s.rest.length }
      return r :: (← redirects fuel)

/-- Reads the rest of a simple command; all of what has been read is last first. -/
def simple : Nat → Simple → Reader Simple
  | 0, s => return s
  | fuel + 1, s => do
    expandAliases fuel s.words.isEmpty
    let before := (← get).line
    match ← redirect? fuel with
    | some r => simple fuel { s with redirects := r :: s.redirects, line := some (s.line.getD before) }
    | none =>
      match ← symbol? with
      | some _ => return s
      | none => do
        let w ← word fuel
        let s := { s with line := some (s.line.getD (← get).line) }
        match s.words, assignment? w with
        | [], some a => simple fuel { s with assignments := a :: s.assignments }
        | _, _ => simple fuel { s with words := w :: s.words }

/-- Reads one command. -/
def command : Nat → Reader Script
  | 0 => fail .openQuote
  | fuel + 1 => do
    expandAliases fuel true
    skipBlanks
    let line := (← get).line
    let furnished (s : Script) : Reader Script := do
      match ← redirects fuel with
      | [] => return s
      | rs => return .redirected s line rs
    if ← accept .openParenthesis then do
      let body ← block fuel
      expectClose (token fuel)
      furnished (.subshell body)
    else match ← reserved? with
      | some "\x7b" => do
        skip
        let body ← block fuel
        expectWord (token fuel) "\x7d"
        furnished body
      | some "if" => do
        skipMany 2
        furnished (← branch fuel)
      | some "while" => do
        skipMany 5
        let condition ← block fuel
        furnished (.loop true condition (← loopBody fuel))
      | some "until" => do
        skipMany 5
        let condition ← block fuel
        furnished (.loop false condition (← loopBody fuel))
      | some "for" => do
        skipMany 3
        skipBlanks
        let name := (plainIn? (← rest)).getD ""
        if !isName name then do
          token fuel
          fail .loopName
        skipMany name.length
        newlines fuel
        let words ←
          if plainIn? (← rest) = some "in" then do
            skipMany 2
            let ws ← wordList fuel
            if !(← separator fuel) then unexpected (token fuel) none
            pure (some ws)
          else do
            let _ ← accept .semicolon
            pure none
        newlines fuel
        furnished (.each line name words (← loopBody fuel))
      | some "case" => do
        skipMany 4
        skipBlanks
        if foundIn (← rest) ≠ "word" then unexpectedWord (token fuel) "word"
        let w ← word fuel
        newlines fuel
        expectWord (token fuel) "in"
        newlines fuel
        furnished (.choose line w (← cases fuel))
      | some _ => unexpected (token fuel) none
      | none => do
        let s ← simple fuel {}
        match s with
        | ⟨[], [], [], _⟩ => unexpected (token fuel) none
        | ⟨[], [w], [], _⟩ =>
          if ← accept .openParenthesis then do
            expectCloseWord (token fuel)
            let name := (Word.plain? w).getD ""
            if !isName name || specialCommands.contains name then fail .functionName
            newlines fuel
            return .define name (← command fuel)
          else return .command (s.line.getD line) [] [w] []
        | s => return .command (s.line.getD line) s.assignments.reverse s.words.reverse s.redirects.reverse

/-- Reads words up to the end of a command. -/
def wordList : Nat → Reader (List Word)
  | 0 => return []
  | fuel + 1 => do
    expandAliases fuel false
    match ← symbol? with
    | some _ => return []
    | none => do
      let w ← word fuel
      return w :: (← wordList fuel)

/-- Reads what follows `if` or `elif`. -/
def branch : Nat → Reader Script
  | 0 => fail .openQuote
  | fuel + 1 => do
    let condition ← block fuel
    expectWord (token fuel) "then"
    let yes ← block fuel
    if ← acceptWord "elif" then return .branch condition yes (← branch fuel)
    else if ← acceptWord "else" then do
      let no ← block fuel
      expectWord (token fuel) "fi"
      return .branch condition yes no
    else do
      expectWord (token fuel) "fi"
      return .branch condition yes .nothing

/-- Reads what a loop does. -/
def loopBody : Nat → Reader Script
  | 0 => fail .openQuote
  | fuel + 1 => do
    expandAliases fuel true
    expectWord (token fuel) "do"
    let body ← block fuel
    expectWord (token fuel) "done"
    return body

/-- Reads the cases of a choice. -/
def cases : Nat → Reader (List (List Word × Script))
  | 0 => return []
  | fuel + 1 => do
    if ← acceptWord "esac" then return []
    let _ ← accept .openParenthesis
    let first ← patternWord fuel
    let patterns ← morePatterns fuel
    expectCloseWord (token fuel)
    let body ← commands fuel true
    let case := (first :: patterns, Script.sequence body)
    if ← accept .caseEnd then do
      newlines fuel
      return case :: (← cases fuel)
    modify fun s => { s with plainAt := none }
    if ← acceptWord "esac" then return [case]
    else unexpected (token fuel) (some "\";;\"")

/-- Reads the patterns after the first one. -/
def morePatterns : Nat → Reader (List Word)
  | 0 => return []
  | fuel + 1 => do
    if ← accept .pipe then do
      let w ← patternWord fuel
      return w :: (← morePatterns fuel)
    else return []

/-- Reads a pattern. Something else in its place stands for the word before it. -/
def patternWord : Nat → Reader Word
  | 0 => return []
  | fuel + 1 => do
    skipBlanks
    let cs ← rest
    match symbolIn? cs, redirectIn? cs with
    | some (_, n), _ | none, some (_, n) => do
      skipMany n
      return (← get).lastWord
    | none, none => word fuel

/-- Reads the commands of a block, of which there is one at least unless the text ends. -/
def block : Nat → Reader Script
  | 0 => fail .openQuote
  | fuel + 1 => return .sequence (← commands fuel false)

/-- Reads commands up to something that ends a list of them. -/
def commands : Nat → Bool → Reader (List Script)
  | 0, _ => fail .openQuote
  | fuel + 1, mayBeEmpty => do
    newlines fuel
    expandAliases fuel true
    newlines fuel
    let next ← symbol?
    let ends := match next, ← reserved? with
      | some .finish, _ | some .closeParenthesis, _ | some .caseEnd, _ => true
      | _, some w => ["do", "done", "elif", "else", "esac", "fi", "then", "\x7d"].contains w
      | _, none => false
    if ends then
      if mayBeEmpty ∨ next = some .finish then return [] else unexpected (token fuel) none
    let first ← chain fuel
    if ← accept .background then return .background first :: (← commands fuel true)
    else if ← separator fuel then return first :: (← commands fuel true)
    else return [first]

/-- Reads pipelines joined by `&&` and `||`. -/
def chain : Nat → Reader Script
  | 0 => fail .openQuote
  | fuel + 1 => do
    let first ← pipeline fuel
    links fuel first

def links : Nat → Script → Reader Script
  | 0, s => return s
  | fuel + 1, s => do
    if ← accept .and then do
      newlines fuel
      links fuel (.both s (← pipeline fuel))
    else if ← accept .or then do
      newlines fuel
      links fuel (.either s (← pipeline fuel))
    else return s

/-- Reads commands joined by `|`. -/
def pipeline : Nat → Reader Script
  | 0 => fail .openQuote
  | fuel + 1 => do
    expandAliases fuel true
    let isNegated ← acceptWord "!"
    let first ← command fuel
    let all ← match ← piped fuel with
      | [] => pure first
      | more => pure (.pipeline (first :: more))
    return if isNegated then .negated all else all

def piped : Nat → Reader (List Script)
  | 0 => return []
  | fuel + 1 => do
    if ← accept .pipe then do
      newlines fuel
      let s ← command fuel
      return s :: (← piped fuel)
    else return []

end

/-- Reads the commands of one line. -/
def lineOf : Nat → Nat → Reader (List Script)
  | 0, _ => fail .openQuote
  | n + 1, fuel => do
    expandAliases fuel true
    match ← symbol? with
    | some .finish => return []
    | some .newline => do
      let _ ← newline fuel
      return []
    | _ => do
      let first ← chain fuel
      if ← accept .background then return .background first :: (← lineOf n fuel)
      else if ← accept .semicolon then return first :: (← lineOf n fuel)
      else match ← symbol? with
        | some .finish => return [first]
        | some .newline => do
          let _ ← newline fuel
          return [first]
        | _ => unexpected (token fuel) none

end Reader

/-- How much is in the texts of aliases. -/
def Source.aliasSize (s : Source) : Nat := s.aliases.foldl (fun n a => n + a.1.length + a.2.length + 1) 0

/-- Reads the next line of a script, if there is one. A word becomes no longer than the texts of all aliases
that are put in one another. -/
def Source.line? (s : Source) : Except (Nat × Unreadable) (Option (Script × Source)) :=
  if s.rest = [] then .ok none
  else
    let size := s.aliasSize + 1
    let fuel := 16 * (s.rest.length + 1) * size * size
    match (do
      let line ← Reader.lineOf fuel fuel
      Reader.endDocuments
      return line : Reader (List Script)) s with
    | .ok line s => .ok (some (.sequence line, s))
    | .error e _ => .error e

end TrafficShaping.Program
