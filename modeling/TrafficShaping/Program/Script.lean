/-!
# Shell scripts

A script is made of commands, and a command of words. A word keeps track of which of its characters were
quoted, since only the others may be split or mean more than themselves, and of the expansions in it, which
may hold words and scripts of their own.
-/

namespace TrafficShaping.Program

/-- What is done where a parameter has no value: another value is used, or used and assigned, or the shell
complains and ends. An alternative is used where there is a value. -/
inductive Fallback where
  | value
  | assign
  | complain
  | alternative
deriving DecidableEq

/-- How a file is opened. It may be wanted to write over one that is there against what is usual. -/
inductive Access where
  | read
  | write
  | overwrite
  | append
  | both
deriving DecidableEq

mutual

/-- A part of a word. The empty part marks a pair of quotes, which make a word even of nothing. -/
inductive Part where
  | char (c : Char) (isQuoted : Bool)
  | empty
  | parameter (name : String) (form : Form) (isQuoted : Bool)
  | output (s : List Script) (isQuoted : Bool)
  | arithmetic (w : List Part) (isQuoted : Bool)

/-- What of a parameter is used. A form that means nothing is noticed when it is needed. -/
inductive Form where
  | value
  | length
  | fallback (kind : Fallback) (ifEmpty : Bool) (w : List Part)
  | trimmed (atEnd longest : Bool) (pattern : List Part)
  | meaningless

/-- What a stream is connected to: another stream by number, a file by name, or a here document by its
number. -/
inductive Redirect where
  | stream (number : Nat) (w : List Part)
  | file (number : Nat) (access : Access) (w : List Part)
  | text (number : Nat) (document : Nat)

/-- A command with the line that it starts in, or commands put together. Those with words of their own have a line
too. -/
inductive Script where
  | command (line : Nat) (assignments : List (String × List Part)) (words : List (List Part))
    (redirects : List Redirect)
  | sequence (parts : List Script)
  | background (s : Script)
  | both (first second : Script)
  | either (first second : Script)
  | negated (s : Script)
  | pipeline (parts : List Script)
  | redirected (s : Script) (line : Nat) (redirects : List Redirect)
  | subshell (s : Script)
  | branch (condition yes no : Script)
  | loop (whileTrue : Bool) (condition body : Script)
  | each (line : Nat) (name : String) (words : Option (List (List Part))) (body : Script)
  | choose (line : Nat) (w : List Part) (cases : List (List (List Part) × Script))
  | define (name : String) (body : Script)

end

abbrev Word := List Part

/-- The script that does nothing. -/
def Script.nothing : Script := .sequence []

instance : Inhabited Script := ⟨.nothing⟩

/-- The text of a word none of which is quoted. -/
def Word.plain? (w : Word) : Option String :=
  (w.mapM fun
    | Part.char c false => some c
    | _ => none).map String.ofList

/-- A name is made of letters, digits and underscores and starts with no digit. -/
def isNameStart (c : Char) : Bool := c.isAlpha || c = '_'

def isNameChar (c : Char) : Bool := c.isAlphanum || c = '_'

def isName (s : String) : Bool :=
  match s.toList with
  | [] => false
  | c :: cs => isNameStart c && cs.all isNameChar

/-- The parameters whose name is one character. -/
def isSpecial (c : Char) : Bool := "$?#@*!-0123456789".toList.contains c

end TrafficShaping.Program
