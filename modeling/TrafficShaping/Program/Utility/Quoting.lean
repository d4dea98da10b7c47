/-!
# Texts in complaints

A program shows a text that it complains about between quotes. A value is shown with backslashes in front of what
would not be seen for what it is. The name of a file is shown as a word that a shell reads as that name, and some
programs leave the quotes away where the name is such a word by itself.

All texts are texts of bytes, of which only the printable ones of ASCII are shown as they are.
-/

namespace TrafficShaping.Program.Utility

def isPrintable (c : Char) : Bool := 32 ≤ c.toNat && c.toNat < 127

/-- The letters after a backslash that stand for characters that are not printable. -/
def escapeLetters : List (Char × Char) :=
  [('\x07', 'a'), ('\x08', 'b'), ('\x0c', 'f'), ('\n', 'n'), ('\r', 'r'), ('\t', 't'), ('\x0b', 'v')]

/-- What stands after a backslash for a character that is not printable. -/
def escaped (c : Char) : List Char :=
  match escapeLetters.lookup c with
  | some letter => [letter]
  | none => [c.toNat / 64, c.toNat / 8 % 8, c.toNat % 8].map fun d => Char.ofNat (48 + d)

/-- A value between quotes. -/
def quoted (s : String) : String :=
  let one (c : Char) : List Char :=
    if c = '\'' ∨ c = '\\' then ['\\', c] else if isPrintable c then [c] else '\\' :: escaped c
  "'" ++ String.ofList (s.toList.flatMap one) ++ "'"

/-- A text between the quotes of a shell. What is not printable stands between quotes of another kind, in front of
which a dollar sign is. -/
def quotedPieces : Bool → List Char → List Char
  | _, [] => ['\'']
  | isEscaping, c :: cs =>
    if c = '\'' then "'\\''".toList ++ quotedPieces false cs
    else if isPrintable c then (if isEscaping then ['\'', '\''] else []) ++ c :: quotedPieces false cs
    else (if isEscaping then [] else "'$'".toList) ++ '\\' :: escaped c ++ quotedPieces true cs

/-- The characters that mean nothing between double quotes either, the first one apart. -/
def isHarmlessInQuotes (isFirst : Bool) (c : Char) : Bool :=
  c.isAlphanum || "%+,-./:]_@ '".toList.contains c || isFirst && (c = '#' || c = '~')

/-- A text as a word that a shell reads as the text, with quotes. -/
def shellQuoted (s : String) : String :=
  match s.toList with
  | [] => "''"
  | c :: cs =>
    if s.contains '\'' && isHarmlessInQuotes true c && cs.all (isHarmlessInQuotes false) then "\"" ++ s ++ "\""
    else String.ofList ('\'' :: quotedPieces false (c :: cs))

/-- Whether a text is a word that a shell reads as the text. -/
def isWordByItself : List Char → Bool
  | [] => false
  | ['\x7b'] | ['\x7d'] | '#' :: _ | '~' :: _ => false
  | cs => cs.all fun c => isPrintable c && !"?\\ !\"$&()*;<=>[^\x60|'".toList.contains c

/-- A text as a word that a shell reads as the text, with quotes where they are needed. -/
def shellWord (s : String) : String := if isWordByItself s.toList then s else shellQuoted s

end TrafficShaping.Program.Utility
