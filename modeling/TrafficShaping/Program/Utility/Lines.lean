import TrafficShaping.Program.Utility.Format
import TrafficShaping.Program.Utility.Parts

/-!
# Utilities on lines

Programs that read lines or bytes and write some of them, in another order or form.
-/

namespace TrafficShaping.Program

namespace Utility

/-- Marks the lines of `cat`: with numbers, either all of them or those that are not empty, and with a sign at
their ends. -/
def marked (g : Given) (s : String) : String :=
  let numbers := g.has 'n' || g.has 'b'
  let step (out : List String × Nat) (l : String) : List String × Nat :=
    let isEmpty := l = "\n"
    let isNumbered := numbers && !(g.has 'b' && isEmpty)
    let shown := if g.has 'E' || g.has 'e' || g.has 'A' then l.replace "\n" "$\n" else l
    let shown := if g.has 'T' || g.has 't' || g.has 'A' then shown.replace "\t" "^I" else shown
    if isNumbered then ((padded 6 ' ' (Number.naturalText out.2) ++ "\t" ++ shown) :: out.1, out.2 + 1)
    else (shown :: out.1, out.2)
  String.join ((wholeLines s).foldl step ([], 1)).1.reverse

def cat : Utility := withOptions "cat" 1
  { letters := "AbeEnstTuv", names := [("number", 'n'), ("show-all", 'A'), ("show-ends", 'E')] } fun c g =>
  let w : Wording := { own? := fun isEmpty => if isEmpty then none else some "input file is output file" }
  filter "cat" w 1 (if g.letters.all (· = 'u') then (fun s => s) else marked g) c g.operands

def tac : Utility := withOptions "tac" 1 { letters := "brs:" } fun c g =>
  let w : Wording := {
    closed := fun file reason => "failed to open " ++ shellQuoted file ++ " for reading: " ++ reason
    unreadable := fun file _ => shellWord file ++ ": read error: Invalid argument" }
  let read := sources "tac" w Disk.enough c (filesOf g.operands)
  { code := if complaints read = [] then 0 else 1
    out := String.join ((texts read).map fun t => String.join (wholeLines t.2).reverse)
    err := lines (complaints read)
    hasRead := (filesOf g.operands).contains "-" }

def rev : Utility := withOptions "rev" 1 { letters := "" } fun c g =>
  let w : Wording := { closed := fun file reason => "cannot open " ++ file ++ ": " ++ reason }
  let turned (l : String) : String :=
    let cs := l.toList.filter (· ≠ '\n')
    String.ofList cs.reverse ++ (if cs.length < l.length then "\n" else "")
  filter "rev" w 1 (fun s => String.join ((wholeLines s).map turned)) c g.operands

/-! ## Counting -/

/-- How many lines, words, characters and bytes a text has, and how long its longest line is. -/
def counts (s : String) : List Nat :=
  [(s.toList.filter (· = '\n')).length,
    (Text.words (String.ofList (s.toList.filter fun c => c.toNat < 128))).length, s.length, s.length,
    ((linesOf s).map String.length).foldl max 0]

def wc : Utility := withOptions "wc" 1
  { letters := "clLmw", names := [("lines", 'l'), ("words", 'w'), ("bytes", 'c'), ("chars", 'm')] } fun c g =>
  let wanted (l : Char) : Bool := if g.options = [] then l = 'l' || l = 'w' || l = 'c' else g.has l
  let select (ns : List Nat) : List Nat :=
    ((['l', 'w', 'm', 'c', 'L'].zip ns).filter fun p => wanted p.1).map (·.2)
  let files := filesOf g.operands
  let read := sources "wc" {} Disk.enough c files
  /- Directories are counted as empty, and complained about. -/
  let counted := read.filterMap fun s => match s.text with
    | .ok text => some (s.file, counts text)
    | .error e => if e.endsWith "Is a directory" then some (s.file, [0, 0, 0, 0, 0]) else none
  let isRegular (file : String) : Bool :=
    file ≠ "-" && match c.disk.find c.directory file with
      | .ok l => !c.disk.tree.isDirectory l && !Disk.isDevice l ["null", "zero", "full", "stdin"]
      | .error _ => true
  let total := (texts read).foldl (fun n t => if isRegular t.1 then n + t.2.length else n) 0
  let width :=
    if (select [0, 0, 0, 0, 0]).length = 1 && files.length = 1 then 1
    else max (Number.naturalText total).length (if files.all isRegular then 1 else 7)
  let line (ns : List Nat) (name : String) : String :=
    Text.joinWith " " (ns.map fun n => padded width ' ' (Number.naturalText n)) ++
      (if name = "" then "" else " " ++ name)
  let rows := counted.map fun t => line (select t.2) (if g.operands = [] then "" else t.1)
  let sums := counted.foldl (fun ns t => List.zipWith (· + ·) ns t.2) [0, 0, 0, 0, 0]
  { code := if complaints read = [] then 0 else 1
    out := lines (rows ++ (if 1 < files.length then [line (select sums) "total"] else []))
    err := lines (complaints read)
    hasRead := files.contains "-" }

/-! ## Fields -/

/-- Ranges of numbers from 1 on, with ends that may be open; otherwise what is wrong with them. -/
def numberRanges (kind zero s : String) : Except String (List (Nat × Option Nat)) :=
  let number (ds : String) : Except String Nat :=
    match Number.natural? ds.toList with
    | some 0 => .error zero
    | some n => .ok n
    | none => .error ("invalid " ++ kind ++ " " ++ quoted ds)
  ((Text.pieces (fun ch => ch = ',' || ch = ' ') s.toList).map String.ofList).mapM fun part =>
    match Text.splitAt '-' part with
    | [n] => do
      let n ← number n
      return (n, some n)
    | ["", ""] => throw "invalid range with no endpoint: -"
    | [a, ""] => do return (← number a, none)
    | ["", b] => do return (1, some (← number b))
    | [a, b] => do
      let (a, b) := (← number a, ← number b)
      if b < a then throw "invalid decreasing range"
      return (a, some b)
    | _ => throw ("invalid " ++ kind ++ " " ++ quoted part)

def isSelected (rs : List (Nat × Option Nat)) (n : Nat) : Bool :=
  rs.any fun r => r.1 ≤ n && (r.2.map fun h => decide (n ≤ h)).getD true

def cut : Utility := withOptions "cut" 1
  { letters := "b:c:d:f:nsz"
    names := [("fields", 'f'), ("bytes", 'b'), ("characters", 'c'), ("delimiter", 'd'),
      ("only-delimited", 's')] } fun c g =>
  let wrong (complaint : String) : Result := misused "cut" 1 complaint
  let delimiter := (g.value? 'd').getD "\t"
  match g.options.filter fun o => o.1 = 'f' || o.1 = 'b' || o.1 = 'c' with
  | [] => wrong "you must specify a list of bytes, characters, or fields"
  | _ :: _ :: _ => wrong "only one list may be specified"
  | [(kind, list)] =>
    let byFields := kind = 'f'
    if 1 < delimiter.length then wrong "the delimiter must be a single character"
    else if g.has 'd' && !byFields then
      wrong "an input delimiter may be specified only when operating on fields"
    else
      let delimiter := delimiter.toList.headD '\x00'
      let ranges := if byFields then numberRanges "field value" "fields are numbered from 1" list
        else numberRanges "byte or character range" "byte/character positions are numbered from 1" list
      match ranges with
      | .error e => wrong e
      | .ok rs =>
        let select {α : Type} (items : List α) : List α :=
          ((items.mapIdx fun i a => (i + 1, a)).filter fun p => isSelected rs p.1).map (·.2)
        let one (l : String) : Option String :=
          if byFields then
            let fields := Text.splitAt delimiter l
            if fields.length = 1 then (if g.has 's' then none else some l)
            else some (Text.joinWith delimiter.toString (select fields))
          else some (String.ofList (select l.toList))
        filter "cut" {} 1 (fun s => lines ((linesOf s).filterMap one)) c g.operands

/-- Puts lines of files next to each other, or the lines of each file. -/
def paste : Utility := withOptions "paste" 1
  { letters := "d:sz", names := [("delimiters", 'd'), ("serial", 's')] } fun c g =>
  let separators := ((g.value? 'd').getD "\t").toList
  let joined (fields : List String) : String :=
    String.join (fields.mapIdx fun i f =>
      (if i = 0 then "" else ((separators[(i - 1) % max 1 separators.length]?).map Char.toString).getD "") ++ f)
  let files := filesOf g.operands
  let read := sources "paste" {} Disk.enough c files
  let columns := (texts read).map fun t => linesOf t.2
  let rows :=
    if g.has 's' then columns.map joined
    else (List.range ((columns.map List.length).foldl max 0)).map fun i =>
      joined (columns.map fun column => (column[i]?).getD "")
  { code := if complaints read = [] then 0 else 1
    out := if complaints read = [] then lines rows else ""
    err := lines (complaints read)
    hasRead := files.contains "-" }

/-- Numbers lines that are not empty. -/
def nl : Utility := withOptions "nl" 1 { letters := "b:w:s:v:n:i:" } fun c g =>
  let width := ((g.value? 'w').bind fun w => Number.natural? w.toList).getD 6
  let separator := (g.value? 's').getD "\t"
  let step (out : List String × Nat) (l : String) : List String × Nat :=
    if l = "" && g.value? 'b' ≠ some "a" then ("".pushn ' ' (width + separator.length) :: out.1, out.2)
    else ((padded width ' ' (Number.naturalText out.2) ++ separator ++ l) :: out.1, out.2 + 1)
  filter "nl" {} 1 (fun s => lines ((linesOf s).foldl step ([], 1)).1.reverse) c g.operands

/-- A list cut into pieces of a length. -/
def piecesOf {α : Type} (n : Nat) : Nat → List α → List (List α)
  | 0, _ => []
  | fuel + 1, cs => if cs.isEmpty then [] else cs.take (max 1 n) :: piecesOf n fuel (cs.drop (max 1 n))

/-- Breaks lines that are too long. -/
def fold : Utility := withOptions "fold" 1 { letters := "bsw:", names := [("width", 'w')] } fun c g =>
  let width := ((g.value? 'w').bind fun w => Number.natural? w.toList).getD 80
  let one (l : String) : String :=
    if l = "\n" then l
    else
      let body := l.toList.filter (· ≠ '\n')
      Text.joinWith "\n" ((piecesOf width body.length body).map String.ofList) ++
        (if body.length < l.length then "\n" else "")
  filter "fold" {} 1 (fun s => String.join ((wholeLines s).map one)) c g.operands

/-! ## Order -/

/-- The number that a line starts with. -/
def leadingNumber (s : String) : Int :=
  let cs := s.toList.dropWhile fun c => c = ' ' || c = '\t'
  let (negative, cs) := match cs with
    | '-' :: cs => (true, cs)
    | cs => (false, cs)
  let n := (Number.natural? (cs.takeWhile Char.isDigit)).getD 0
  if negative then -n else n

/-- What lines are compared by: the fields from one to another, and letters that say how. -/
structure SortKey where
  first : Nat := 1
  last : Option Nat := none
  letters : List Char := []

def SortKey.ofText? (s : String) : Option SortKey :=
  let digits := s.toList.takeWhile Char.isDigit
  let rest := s.toList.drop digits.length
  let letters := rest.takeWhile Char.isAlpha
  match Number.natural? digits, rest.drop letters.length with
  | some first, [] => some ⟨first, none, letters⟩
  | some first, ',' :: more =>
    let digits := more.takeWhile Char.isDigit
    (Number.natural? digits).map fun last => ⟨first, some last, letters ++ more.drop digits.length⟩
  | _, _ => none

/-- The fields of a line: separated by a character, or each with the blanks in front of it. -/
def sortFields (separator : Option Char) (l : String) : List String :=
  match separator with
  | some ch => Text.splitAt ch l
  | none =>
    let step (out : List (List Char)) (ch : Char) : List (List Char) :=
      match out with
      | (d :: ds) :: more => if ch = ' ' && d ≠ ' ' then [ch] :: out else (ch :: d :: ds) :: more
      | _ => [ch] :: out
    (l.toList.foldl step []).reverse.map fun cs => String.ofList cs.reverse

def SortKey.of (k : SortKey) (separator : Option Char) (l : String) : String :=
  let fields := (sortFields separator l).drop (k.first - 1)
  let fields := match k.last with
    | some n => fields.take (n + 1 - k.first)
    | none => fields
  Text.joinWith ((separator.map Char.toString).getD "") fields

def sort : Utility := withOptions "sort" 2
  { letters := "bcCdfghik:mMno:rRst:uVz"
    names := [("numeric-sort", 'n'), ("reverse", 'r'), ("unique", 'u'), ("ignore-case", 'f'), ("key", 'k')] } fun c g =>
  let w : Wording := {
    closed := fun file reason => "cannot read: " ++ shellWord file ++ ": " ++ reason
    unreadable := fun file reason => "read failed: " ++ shellWord file ++ ": " ++ reason }
  let separator := (g.value? 't').bind fun t => t.toList.head?
  let keys := (g.options.filter (·.1 = 'k')).filterMap fun o => SortKey.ofText? o.2
  let keys := if keys = [] then [{ letters := g.letters : SortKey }]
    else keys.map fun k => if k.letters = [] then { k with letters := g.letters } else k
  let compared (k : SortKey) (a b : String) : Ordering :=
    let (x, y) := if k.first = 1 ∧ k.last = none then (a, b) else (k.of separator a, k.of separator b)
    let trimmed (s : String) : String := if k.letters.contains 'b' then Text.trimStartOf ' ' s else s
    let folded (s : String) : String := if k.letters.contains 'f' then upperCase s else s
    let o := if k.letters.contains 'n' || k.letters.contains 'g' then compare (leadingNumber x) (leadingNumber y)
      else compare (folded (trimmed x)) (folded (trimmed y))
    if k.letters.contains 'r' then o.swap else o
  let byKeys (a b : String) : Ordering := keys.foldl (fun o k => o.then (compared k a b)) .eq
  let atMost (a b : String) : Bool :=
    let o := byKeys a b
    let o := if g.has 'u' || g.has 's' then o
      else o.then (if g.has 'r' then compare b a else compare a b)
    o ≠ .gt
  let once (ls : List String) : List String :=
    (ls.foldl (fun out l => if out.head?.any fun k => byKeys k l = .eq then out else l :: out) []).reverse
  let work (s : String) : String :=
    let sorted := (linesOf s).mergeSort atMost
    lines (if g.has 'u' then once sorted else sorted)
  let complain (s : String) : Result := failing 2 ("sort: " ++ s)
  let isOut (o : Char) : Bool := g.has o
  match ["cC", "co", "Co"].find? fun p => p.toList.all isOut, (g.options.filter (·.1 = 'o')).map (·.2) with
  | some p, _ => complain ("options '-" ++ p ++ "' are incompatible")
  | none, outputs =>
    if g.has 'c' || g.has 'C' then
      match g.operands with
      | _ :: extra :: _ =>
        complain ("extra operand " ++ quoted extra ++ " not allowed with -" ++ if g.has 'c' then "c" else "C")
      | operands =>
        let w : Wording := { w with closed := fun file reason => "open failed: " ++ shellWord file ++ ": " ++ reason }
        match sources "sort" w Disk.enough c (filesOf operands) with
        | [⟨file, .ok text⟩] =>
          let ls := linesOf text
          let follows (a b : String) : Bool := if g.has 'u' then byKeys a b = .lt else atMost a b
          let hasRead := file = "-"
          match (ls.zip (ls.drop 1)).findIdx? fun p => !follows p.1 p.2 with
          | none => { hasRead }
          | some i =>
            { code := 1
              err := if g.has 'C' then "" else lines ["sort: " ++ file ++ ":" ++ Number.naturalText (i + 2) ++
                ": disorder: " ++ ls.getD (i + 1) ""]
              hasRead }
        | read => { code := 2, err := lines (complaints read) }
    else
      let r := filter "sort" w 2 work c g.operands
      if r.code ≠ 0 then { r with out := "" }
      else match outputs with
        | [] => r
        | file :: more =>
          if more.any (· ≠ file) then complain "multiple output files specified"
          else match (do c.disk.write (← c.disk.locate c.directory file) r.out : Except Errno Disk) with
            | .ok d => { r with out := "", disk := some d }
            | .error e => complain ("open failed: " ++ shellWord file ++ ": " ++ e.description)

/-- Runs of neighbours that are alike, with their lengths. -/
def runs (same : String → String → Bool) (ls : List String) : List (String × Nat) :=
  (ls.foldl (fun out l => match out with
    | (k, n) :: more => if same k l then (k, n + 1) :: more else (l, 1) :: out
    | [] => [(l, 1)]) []).reverse

def uniq : Utility := withOptions "uniq" 1
  { letters := "cdDf:is:uw:z", names := [("count", 'c'), ("repeated", 'd'), ("unique", 'u')] } fun c g =>
  let kept (r : String × Nat) : Bool := (!g.has 'd' || 1 < r.2) && (!g.has 'u' || r.2 = 1)
  let line (r : String × Nat) : String :=
    (if g.has 'c' then padded 7 ' ' (Number.naturalText r.2) ++ " " else "") ++ r.1
  let same (a b : String) : Bool := if g.has 'i' then upperCase a = upperCase b else a = b
  filter "uniq" {} 1 (fun s => lines (((runs same (linesOf s)).filter kept).map line)) c (g.operands.take 1)

/-! ## Copies -/

def tee : Utility := withOptions "tee" 1 { letters := "aip", names := [("append", 'a')] } fun c g =>
  g.operands.foldl (fun r file =>
    let d := r.disk.getD c.disk
    let failed (e : Errno) : Result :=
      { r with code := 1, err := r.err ++ "tee: " ++ shellWord file ++ ": " ++ e.description ++ "\n" }
    match d.locate c.directory file with
    | .error e => failed e
    | .ok l =>
      let before := if g.has 'a' then ((d.read l 0).toOption.getD "") else ""
      match d.write l (before ++ c.input) with
      | .ok d => { r with disk := some d }
      | .error e => failed e)
    { out := c.input, hasRead := true }

/-- Copies a part of a file in blocks, and tells how many whole and broken ones there were. -/
def dd : Utility := fun c =>
  let named := c.arguments.map fun w =>
    let name := String.ofList (w.toList.takeWhile (· ≠ '='))
    (w, name, String.ofList (w.toList.drop (name.length + 1)))
  let value? (name : String) : Option String := ((named.filter (·.2.1 = name)).getLast?).map (·.2.2)
  let number (name : String) (otherwise : Nat) : Nat :=
    ((value? name).bind fun v => multiple? v.toList).getD otherwise
  let names := ["if", "of", "bs", "ibs", "obs", "count", "skip", "seek", "conv", "iflag", "oflag", "status"]
  match named.find? fun n => !n.1.contains '=' || !names.contains n.2.1 with
  | some (w, _, _) => misused "dd" 1 ("unrecognized operand " ++ quoted w)
  | none =>
    let block := number "bs" (number "ibs" 512)
    let skipped := block * number "skip" 0
    let most := (value? "count").map fun _ => block * number "count" 0
    let w : Wording := {
      closed := fun file reason => "failed to open " ++ shellQuoted file ++ ": " ++ reason
      unreadable := fun file reason => "error reading " ++ shellQuoted file ++ ": " ++ reason }
    match sources "dd" w (skipped + most.getD Disk.enough) c [(value? "if").getD "-"] with
    | [⟨_, .ok text⟩] =>
      let cs := text.toList.drop skipped
      let part := String.ofList (match most with
        | some n => cs.take n
        | none => cs)
      let blocks :=
        Number.naturalText (part.length / block) ++ "+" ++ (if part.length % block = 0 then "0" else "1")
      let told := lines [blocks ++ " records in", blocks ++ " records out"]
      let told := match value? "status" with
        | some "none" => ""
        | some "noxfer" => told
        | _ => told ++ lines [Number.naturalText part.length ++ " bytes copied"]
      match value? "of" with
      | none => { out := part, err := told, hasRead := (value? "if").isNone }
      | some file =>
        match (do c.disk.write (← c.disk.locate c.directory file) part : Except Errno Disk) with
        | .ok d => { err := told, disk := some d, hasRead := (value? "if").isNone }
        | .error e => failing 1 ("dd: failed to open " ++ shellQuoted file ++ ": " ++ e.description)
    | read => { code := 1, err := lines (complaints read) }

end Utility

end TrafficShaping.Program
