/-!
# Options

The words that a program is called with are options, values of options and operands. An option is a letter
after a dash, and several letters can share a dash, or a name after two dashes. What an option is given is
the rest of its word or the next word.
-/

namespace TrafficShaping.Program

/-- The options that a program has: letters, with a colon after each that takes a value, and names for
letters. If they are in front, the first operand ends them. -/
structure Options where
  letters : String
  names : List (String × Char) := []
  areInFront : Bool := false

/-- What is wrong with an option. -/
inductive Options.Fault where
  | unknown (c : Char)
  | unknownName (w : String)
  | noValue (c : Char)
  | noValueOfName (name : String)
deriving DecidableEq

/-- What words say. -/
structure Given where
  options : List (Char × String) := []
  operands : List String := []

namespace Given

def has (g : Given) (c : Char) : Bool := g.options.any (·.1 = c)

/-- The last value that an option was given. -/
def value? (g : Given) (c : Char) : Option String := (g.options.filter (·.1 = c)).getLast?.map (·.2)

/-- The letters of the options in order. -/
def letters (g : Given) : List Char := g.options.map (·.1)

/-- One more option in front. -/
def adding (g : Given) (c : Char) (value : String) : Given := { g with options := (c, value) :: g.options }

end Given

namespace Options

/-- Whether a program has an option of this letter, and if so, whether it takes a value. -/
def takesValue? (o : Options) (c : Char) : Option Bool :=
  match (o.letters.toList.dropWhile (· ≠ c)).take 2 with
  | [] => none
  | [_, ':'] => some (c ≠ ':')
  | _ => if c = ':' then none else some false

/-- Reads the letters of a word, and says which of them is still to be given a value. -/
def readLetters (o : Options) : List Char → Except Fault (List (Char × String) × Option Char)
  | [] => .ok ([], none)
  | c :: cs =>
    match o.takesValue? c with
    | none => .error (.unknown c)
    | some true => .ok (if cs = [] then ([], some c) else ([(c, String.ofList cs)], none))
    | some false => do
      let (more, wanting) ← o.readLetters cs
      return ((c, "") :: more, wanting)

/-- Reads words. -/
def read (o : Options) : List String → Except Fault Given
  | [] => .ok {}
  | w :: ws =>
    match w.toList with
    | ['-', '-'] => .ok { operands := ws }
    | '-' :: '-' :: cs =>
      let name := cs.takeWhile (· ≠ '=')
      match o.names.lookup (String.ofList name) with
      | none => .error (.unknownName w)
      | some c =>
        if o.takesValue? c = some true ∧ name.length = cs.length then
          match ws with
          | [] => .error (.noValueOfName (String.ofList name))
          | v :: ws => do return (← o.read ws).adding c v
        else do return (← o.read ws).adding c (String.ofList (cs.drop (name.length + 1)))
    | '-' :: c :: cs => do
      let (given, wanting) ← o.readLetters (c :: cs)
      let g ← match wanting, ws with
        | none, ws => o.read ws
        | some c, [] => throw (.noValue c)
        | some c, v :: ws => do pure ((← o.read ws).adding c v)
      return { g with options := given ++ g.options }
    | _ =>
      if o.areInFront then .ok { operands := w :: ws }
      else do
        let g ← o.read ws
        return { g with operands := w :: g.operands }

end Options

end TrafficShaping.Program
