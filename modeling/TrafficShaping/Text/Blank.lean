/-!
# White space

Parameters arrive from people and from other programs, so blank means Unicode's `White_Space`
property and not the ASCII blanks alone: the ideographic space is blank, the zero-width space is not.

Everything here is a cut of a list. `pieces` cuts at every separator and loses nothing but
the separators; `words` is what is left of the pieces between blanks once the empty ones are gone, and
`trim` takes blanks off both ends.
-/

namespace TrafficShaping.Text

/-- Unicode's `White_Space` property. -/
def isBlank (c : Char) : Bool :=
  let n := c.toNat
  (9 ≤ n && n ≤ 13) || n == 0x20 || n == 0x85 || n == 0xa0 || n == 0x1680 ||
    (0x2000 ≤ n && n ≤ 0x200a) || n == 0x2028 || n == 0x2029 || n == 0x202f || n == 0x205f ||
    n == 0x3000

/-- Puts an item in front of the first piece. -/
def growFirst {α : Type} (c : α) : List (List α) → List (List α)
  | [] => [[c]]
  | p :: ps => (c :: p) :: ps

/-- The pieces between separators, empty ones included: one more than there are separators. -/
def pieces {α : Type} (isSeparator : α → Bool) (cs : List α) : List (List α) :=
  cs.foldr (fun c ps => if isSeparator c then [] :: ps else growFirst c ps) [[]]

/-- A text cut at every occurrence of one character. -/
def splitAt (separator : Char) (s : String) : List String :=
  (pieces (· == separator) s.toList).map String.ofList

/-- The longest parts of a text that hold no blank, in order. -/
def words (s : String) : List String :=
  ((pieces isBlank s.toList).filter (!·.isEmpty)).map String.ofList

/-- Drops the items at the end of a list that satisfy `p`. -/
def dropEnd {α : Type} (p : α → Bool) (cs : List α) : List α :=
  (cs.reverse.dropWhile p).reverse

def trimChars (cs : List Char) : List Char := dropEnd isBlank (cs.dropWhile isBlank)

/-- A text without the blanks at its ends. -/
def trim (s : String) : String := String.ofList (trimChars s.toList)

/-- A text without the copies of one character at its start. -/
def trimStartOf (c : Char) (s : String) : String := String.ofList (s.toList.dropWhile (· == c))

/-- A text without the copies of one character at its end. -/
def trimEndOf (c : Char) (s : String) : String := String.ofList (dropEnd (· == c) s.toList)

/-- What follows `start`, if the text begins with it. -/
def stripStart? (start s : String) : Option String :=
  (start.toList.isPrefixOf? s.toList).map String.ofList

/-- What precedes `ending`, if the text closes with it. -/
def stripEnd? (ending s : String) : Option String :=
  (ending.toList.reverse.isPrefixOf? s.toList.reverse).map (String.ofList ·.reverse)

/-- Texts one after the other with a separator between neighbours. -/
def joinWith (separator : String) (parts : List String) : String := separator.intercalate parts

@[simp] theorem pieces_nil {α : Type} (p : α → Bool) : pieces p [] = [[]] := rfl

theorem pieces_cons {α : Type} (p : α → Bool) (c : α) (cs : List α) :
    pieces p (c :: cs) = if p c then [] :: pieces p cs else growFirst c (pieces p cs) := rfl

theorem pieces_ne_nil {α : Type} (p : α → Bool) (cs : List α) : pieces p cs ≠ [] := by
  cases cs with
  | nil => simp
  | cons c cs =>
    rw [pieces_cons]
    split
    · simp
    · cases pieces p cs <;> simp [growFirst]

end TrafficShaping.Text
