import TrafficShaping.Program.Pattern

/-!
# Fields

Expanding a word gives characters, and field splitting makes fields of them. Only characters that came out
of an expansion outside of quotes separate fields. A pair of quotes makes a field even of nothing.

What comes out of one expansion is a region. Blanks that separate fields belong together within a region but
not beyond it, and of a region that is a list of values only the ends of the values separate fields.
-/

namespace TrafficShaping.Program

/-- What an expanded word is made of: quoted characters, characters that stood in the word, characters that
may separate fields, a mark that there is a field, an end of a value, and the start of a region. -/
inductive Item where
  | kept (c : Char)
  | plain (c : Char)
  | loose (c : Char)
  | mark
  | cut
  | region (isList : Bool)
deriving DecidableEq

namespace Item

/-- The character of an item, and whether it was quoted. -/
def written? : Item → Option Written
  | .kept c => some (c, true)
  | .plain c | .loose c => some (c, false)
  | .mark | .cut | .region _ => none

/-- The items as one text. -/
def text (items : List Item) : String := String.ofList ((items.filterMap written?).map (·.1))

/-- The items as a pattern, in which a backslash that came out of an expansion quotes the next character. -/
def quotedByBackslash : List Item → List Written
  | [] => []
  | .loose '\\' :: i :: items =>
    match written? i with
    | some (c, _) => (c, true) :: quotedByBackslash items
    | none => ('\\', false) :: quotedByBackslash items
  | i :: items => (written? i).toList ++ quotedByBackslash items

def pattern (items : List Item) : Pattern :=
  Pattern.ofWritten (quotedByBackslash (items.filter fun
    | .region _ => false
    | _ => true))

end Item

/-- The fields that are complete and the one that has begun, all last first; whether blanks that end a
field were just read, whether this region and the one before it are lists, and how many fields may follow
each other, if that is limited. Once no more may follow, what the last field would be without the separators
at its end is kept. -/
structure Fields where
  complete : List (List Written) := []
  current : Option (List Written) := none
  afterBlank : Bool := false
  isList : Bool := false
  afterList : Bool := false
  left : Option Nat := none
  withoutEnd : Option (Option (List Written)) := none

namespace Fields

/-- The blanks among the characters that separate fields. -/
def isBlank (c : Char) : Bool := c = ' ' || c = '\t' || c = '\n'

def add (f : Fields) (c : Char) (isQuoted : Bool) : Fields :=
  { f with current := some ((c, isQuoted) :: f.current.getD []) }

/-- Takes a character that may separate fields where no more of them may follow. -/
def addLast (f : Fields) (c : Char) (isSeparator : Bool) : Fields :=
  if isSeparator && isBlank c then { f.add c false with withoutEnd := f.withoutEnd <|> some f.current }
  else { f.add c false with
    afterBlank := false
    withoutEnd := if isSeparator && f.afterBlank then f.withoutEnd else none }

/-- Takes a separator: a blank, or another one, which a blank in front of it belongs to. -/
def separate (f : Fields) (c : Char) : Fields :=
  if f.afterBlank then (if isBlank c then f else { f with afterBlank := false })
  else
    let afterBlank := isBlank c && !f.isList && !f.afterList
    if f.current.isNone && afterBlank then f
    else if f.left = some 1 then
      { f.add c false with left := some 0, afterBlank, withoutEnd := some f.current }
    else
      { f with
        complete := (f.current.getD []).reverse :: f.complete
        current := none
        afterBlank
        left := f.left.map (· - 1) }

def step (separators : String) (f : Fields) : Item → Fields
  | .kept c => f.add c true
  | .plain c => f.add c false
  | .loose c =>
    let isSeparator := separators.contains c && !f.isList
    if f.left = some 0 then f.addLast c isSeparator
    else if isSeparator then f.separate c
    else { f.add c false with afterBlank := false }
  | .mark => { f with current := some (f.current.getD []) }
  | .cut => f.separate ' '
  | .region isList => { f with afterBlank := false, isList, afterList := f.isList }

/-- All fields. A list that ends a word has a last value. -/
def all (f : Fields) : List (List Written) :=
  let last := if f.isList then some (f.current.getD []) else f.withoutEnd.getD f.current
  f.complete.reverse ++ (last.map List.reverse).toList

/-- The fields of an expanded word. -/
def split (separators : String) (items : List Item) : List (List Written) := (items.foldl (step separators) {}).all

/-- The fields of a line for so many parameters. The last one is given all that is left, without what ends
it. -/
def shared (separators : String) (most : Nat) (items : List Item) : List String :=
  (items.foldl (step separators) { left := some most }).all.map fun f => String.ofList (f.map (·.1))

end Fields

end TrafficShaping.Program
