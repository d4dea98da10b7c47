import TrafficShaping.Program.Utility.Parts

/-!
# Dumps

`od` shows the bytes of its files line by line, each line behind the place where it starts, as numbers of some
size and base or as characters. A line may be shown in several ways, which stand in columns. A line that is as
the one before it is left out.
-/

namespace TrafficShaping.Program

namespace Utility

/-- How a datum is shown. A character that is not printable is shown by its name or by an escape. -/
inductive Shown where
  | number (base : Nat) (isSigned : Bool)
  | name
  | character
deriving DecidableEq

/-- A way to show a line: how the data in it are shown, of how many bytes each of them is, and whether the line
is also shown as text. -/
structure Display where
  shown : Shown
  size : Nat := 1
  hasText : Bool := false

namespace Display

/-- How wide a datum is shown. -/
def width (d : Display) : Nat :=
  let digits (base n : Nat) : Nat := (Nat.toDigits base n).length
  match d.shown with
  | .number base true => digits base (Nat.pow 2 (8 * d.size - 1)) + 1
  | .number base false => digits base (Nat.pow 2 (8 * d.size) - 1)
  | .name | .character => 3

/-- The names of the first characters. -/
def names : List String :=
  ["nul", "soh", "stx", "etx", "eot", "enq", "ack", "bel", "bs", "ht", "nl", "vt", "ff", "cr", "so", "si", "dle",
    "dc1", "dc2", "dc3", "dc4", "nak", "syn", "etb", "can", "em", "sub", "esc", "fs", "gs", "rs", "us", "sp"]

/-- The escapes of characters. -/
def escapes : List (Nat × String) :=
  [(0, "\\0"), (7, "\\a"), (8, "\\b"), (9, "\\t"), (10, "\\n"), (11, "\\v"), (12, "\\f"), (13, "\\r")]

/-- A datum as it is shown, of which the lowest byte comes first. -/
def text (d : Display) (bytes : List Nat) : String :=
  let n := bytes.foldr (fun b n => b + 256 * n) 0
  match d.shown with
  | .number 10 true =>
    if n < Nat.pow 2 (8 * d.size - 1) then Number.naturalText n
    else "-" ++ Number.naturalText (Nat.pow 2 (8 * d.size) - n)
  | .number 10 false => Number.naturalText n
  | .number base _ => padded d.width '0' (String.ofList (Nat.toDigits base n))
  | .name => if n % 128 = 127 then "del" else names.getD (n % 128) (Char.ofNat (n % 128)).toString
  | .character =>
    if isPrintable (Char.ofNat n) then (Char.ofNat n).toString
    else (escapes.lookup n).getD (padded 3 '0' (String.ofList (Nat.toDigits 8 n)))

/-- The parts of a list of so many each; the last one may be shorter. -/
def cut (size : Nat) : Nat → List Nat → List (List Nat)
  | 0, _ | _, [] => []
  | n + 1, bytes => bytes.take size :: cut size n (bytes.drop size)

/-- How much more room the columns of a line take than what is in them, if the line takes so much in all. -/
def room (d : Display) (total length : Nat) : Nat := total - d.width * (length / d.size)

/-- A line of bytes where a whole one is of a given length and takes so much room. The room between the columns
is shared among them, and the rest of it comes first. -/
def row (d : Display) (total length : Nat) (bytes : List Nat) : String :=
  let columns := length / d.size
  let upTo (column : Nat) : Nat := d.room total length * (columns - column) / columns
  let data := cut d.size bytes.length bytes
  let shown := String.join (data.mapIdx fun i datum =>
    padded (upTo i - upTo (i + 1) + d.width) ' ' (d.text datum))
  if d.hasText then
    let missing := columns - data.length
    shown ++ "".pushn ' ' (missing * d.width + d.room total length * missing / columns) ++ "  >" ++
      String.ofList (bytes.map fun b => if isPrintable (Char.ofNat b) then Char.ofNat b else '.') ++ "<"
  else shown

/-- How many bytes a datum has, by a digit or a letter for it; most have four. The rest of the word is left. -/
def sizeIn (cs : List Char) : Nat × List Char :=
  let ds := cs.takeWhile Char.isDigit
  match ds, cs with
  | [], 'C' :: cs => (1, cs)
  | [], 'S' :: cs => (2, cs)
  | [], 'I' :: cs => (4, cs)
  | [], 'L' :: cs => (8, cs)
  | [], cs => (4, cs)
  | ds, cs => ((Number.natural? ds).getD 0, cs.drop ds.length)

/-- Reads the letters of ways to show a line; otherwise a complaint about the word that they are in. -/
def read (w : String) : Nat → List Char → Except String (List Display)
  | 0, _ | _, [] => .ok []
  | n + 1, c :: cs => do
    let numbers : List (Char × Shown) :=
      [('d', .number 10 true), ('u', .number 10 false), ('o', .number 8 false), ('x', .number 16 false)]
    let (d, cs) : Display × List Char ← match numbers.lookup c, c with
      | some shown, _ =>
        let (size, cs) := sizeIn cs
        if [1, 2, 4, 8].contains size then pure ({ shown, size }, cs)
        else throw ("invalid type string " ++ quoted w ++ ";\nthis system doesn't provide a " ++
          Number.naturalText size ++ "-byte integral type")
      | none, 'a' => pure ({ shown := .name }, cs)
      | none, 'c' => pure ({ shown := .character }, cs)
      | none, c => throw ("invalid character '" ++ c.toString ++ "' in type string " ++ quoted w)
    let (d, cs) : Display × List Char := match cs with
      | 'z' :: cs => ({ d with hasText := true }, cs)
      | cs => (d, cs)
    return d :: (← read w n cs)

/-- The ways that an option asks for. -/
def ofOption (o : Char × String) : Except String (List Display) :=
  match o with
  | ('t', w) => read w w.length w.toList
  | ('a', _) => .ok [{ shown := .name }]
  | ('b', _) => .ok [{ shown := .number 8 false }]
  | ('c', _) => .ok [{ shown := .character }]
  | ('d', _) => .ok [{ shown := .number 10 false, size := 2 }]
  | ('h', _) | ('x', _) => .ok [{ shown := .number 16 false, size := 2 }]
  | ('i', _) => .ok [{ shown := .number 10 true, size := 4 }]
  | ('l', _) => .ok [{ shown := .number 10 true, size := 8 }]
  | ('o', _) => .ok [{ shown := .number 8 false, size := 2 }]
  | ('s', _) => .ok [{ shown := .number 10 true, size := 2 }]
  | _ => .ok []

end Display

/-- How the places of lines are told: in a base, and with so many digits at least. -/
structure PlaceStyle where
  base : Nat
  digits : Nat

/-- The styles by letter; there may be no places. -/
def PlaceStyle.ofLetter? : Char → Option (Option PlaceStyle)
  | 'o' => some (some ⟨8, 7⟩)
  | 'd' => some (some ⟨10, 7⟩)
  | 'x' => some (some ⟨16, 6⟩)
  | 'n' => some none
  | _ => none

/-- The lines of a dump from a place on, and the place behind them. -/
def dumpLines (style : Option PlaceStyle) (displays : List Display) (length : Nat) (repeats : Bool) :
    List (List Nat) → Nat → Option (List Nat) → Bool → List String
  | [], place, _, _ => (style.map fun s => padded s.digits '0' (String.ofList (Nat.toDigits s.base place))).toList
  | bytes :: more, place, before, isStarred =>
    let next := dumpLines style displays length repeats more (place + bytes.length) (some bytes)
    if !repeats && before = some bytes then
      if isStarred then next true else "*" :: next true
    else
      let total := (displays.map fun d => (d.width + 1) * (length / d.size)).foldl max 0
      let label := style.elim "" fun s => padded s.digits '0' (String.ofList (Nat.toDigits s.base place))
      (displays.mapIdx fun i d =>
        (if i = 0 then label else "".pushn ' ' label.length) ++ d.row total length bytes) ++ next false

/-- The options of `od`. -/
def dumpOptions : Options where
  letters := "A:abcdhij:lN:ost:vw:x"
  names := [("address-radix", 'A'), ("format", 't'), ("skip-bytes", 'j'), ("read-bytes", 'N'), ("width", 'w'),
    ("output-duplicates", 'v')]

def od : Utility := fun c =>
  let complaint (s : String) : Result := failing 1 ("od: " ++ s)
  withOptions "od" 1 dumpOptions (fun c g =>
    let radix := ((g.value? 'A').getD "o").toList.headD '\x00'
    let amountOf (o : Char) : Except String (Option Nat) :=
      match g.value? o with
      | none => .ok none
      | some w =>
        match multiple? w.toList with
        | some n => .ok (some n)
        | none => .error ("invalid -" ++ o.toString ++ " argument " ++ quoted w)
    match PlaceStyle.ofLetter? radix, amountOf 'j', amountOf 'N', amountOf 'w', g.options.mapM Display.ofOption with
    | none, _, _, _, _ =>
      complaint ("invalid output address radix '" ++ radix.toString ++ "'; it must be one character from [doxn]")
    | _, .error e, _, _, _ | _, _, .error e, _, _ | _, _, _, .error e, _ | _, _, _, _, .error e => complaint e
    | some style, .ok skipped, .ok most, .ok width, .ok displays =>
      let displays := if displays.flatten = [] then [{ shown := .number 8 false, size := 2 }] else displays.flatten
      let unit := (displays.map (·.size)).foldl max 1
      let asked := width.getD 16
      let length := if asked % unit = 0 ∧ asked ≠ 0 then asked else unit
      let warning := if length = asked then [] else
        ["od: warning: invalid width " ++ Number.naturalText asked ++ "; using " ++ Number.naturalText unit ++
          " instead"]
      let skipped := skipped.getD 0
      let files := filesOf g.operands
      let read := sources "od" {} (skipped + most.getD Disk.enough) c files
      let all := (String.join ((texts read).map (·.2))).toList.map Char.toNat
      let bytes := match most with
        | some n => (all.drop skipped).take n
        | none => all.drop skipped
      let told := warning ++ complaints read
      let hasRead := files.contains "-"
      if texts read = [] then { code := 1, err := lines told }
      else if all.length < skipped then
        { code := 1, err := lines (told ++ ["od: cannot skip past end of combined input"]), hasRead }
      else
        { code := if complaints read = [] then 0 else 1
          out := lines (dumpLines style displays length (g.has 'v') (Display.cut length bytes.length bytes)
            skipped none false)
          err := lines told
          hasRead })
    { c with arguments := c.arguments.map fun w => if w = "-w" then "-w32" else w }

end Utility

end TrafficShaping.Program
