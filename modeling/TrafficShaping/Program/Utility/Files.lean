import TrafficShaping.Program.Utility.Basic

/-!
# Utilities for files

Programs that show what is on the disk and change it. A program that is given several files goes on after a
failure with the next one.
-/

namespace TrafficShaping.Program

namespace Utility

/-! ## Listing -/

/-- The names in a directory, as the options of `ls` want them. -/
def listed (d : Disk) (g : Given) (l : Location) : List String :=
  let names := d.names l
  let names :=
    if g.has 'a' then "." :: ".." :: names
    else if g.has 'A' then names
    else names.filter (!·.startsWith ".")
  if g.has 'r' then names.reverse else names

def ls : Utility := withOptions "ls" 2 { letters := "aAdlh1rtRSFCxmnogisUXvcubBfkpqQNLHGZD" } fun c g =>
  let files := if g.operands = [] then ["."] else g.operands.mergeSort fun a b => decide (a ≤ b)
  let found := files.map fun file => (file, c.disk.find c.directory file)
  let complaints := found.filterMap fun f => match f.2 with
    | .error e => some ("ls: cannot access " ++ shellQuoted f.1 ++ ": " ++ e.description)
    | .ok _ => none
  let there := found.filterMap fun f => f.2.toOption.map fun l => (f.1, l)
  let (opened, single) := there.partition fun f => c.disk.tree.isDirectory f.2 && !g.has 'd'
  let inside (f : String × Location) : String :=
    (if 1 < files.length then f.1 ++ ":\n" else "") ++ lines (listed c.disk g f.2)
  { code := if complaints = [] then 0 else 2
    out := Text.joinWith "\n"
      ((if single = [] then [] else [lines (single.map (·.1))]) ++ opened.map inside)
    err := lines complaints }

/-! ## Making and removing -/

/-- Changes the disk for one file after the other. -/
def change (name verb : String) (one : Disk → String → Except Errno Disk) (c : Call) (files : List String) :
    Result :=
  files.foldl (fun r file =>
    match one (r.disk.getD c.disk) file with
    | .ok d => { r with disk := some d }
    | .error e =>
      { r with
        code := 1
        err := r.err ++ name ++ ": " ++ verb ++ " " ++ shellQuoted file ++ ": " ++ e.description ++ "\n" }) {}

/-- The paths that lead to a path step by step. -/
def pathsTo (path : String) : List String :=
  let steps := Text.splitAt '/' (Text.trimEndOf '/' path)
  ((List.range steps.length).map fun n => Text.joinWith "/" (steps.take (n + 1))).filter (· ≠ "")

def mkdir : Utility := withOptions "mkdir" 1
  { letters := "m:pvZ", names := [("parents", 'p'), ("mode", 'm'), ("verbose", 'v')] } fun c g =>
  let make (d : Disk) (file : String) : Except Errno Disk := do
    match d.find c.directory file with
    | .ok l => if g.has 'p' && d.tree.isDirectory l then return d else throw .alreadyExists
    | .error _ =>
      let l ← d.locate c.directory (Text.trimEndOf '/' file)
      if (d.tree.get? l).isSome then throw .alreadyExists
      return { d with tree := d.tree.insert l (.directory 0o755) }
  if g.operands = [] then misused "mkdir" 1 "missing operand"
  else change "mkdir" "cannot create directory"
    (fun d file => if g.has 'p' then (pathsTo file).foldlM make d else make d file) c g.operands

def rmdir : Utility := withOptions "rmdir" 1
  { letters := "pv", names := [("parents", 'p'), ("verbose", 'v')] } fun c g =>
  let one (d : Disk) (file : String) : Except Errno Disk := do
    let l ← d.find c.directory file
    if !d.tree.isDirectory l then throw .notDirectory
    if d.tree.isOccupied l then throw .notEmpty
    return d.remove l
  if g.operands = [] then misused "rmdir" 1 "missing operand"
  else change "rmdir" "failed to remove"
    (fun d file => if g.has 'p' then (pathsTo file).reverse.foldlM one d else one d file) c g.operands

/-- Takes out an entry with everything below it. -/
def removeAll (d : Disk) (l : Location) : Disk :=
  let isBelow (k : Location) : Bool := l.isSuffixOf k
  ⟨⟨d.tree.entries.filter (!isBelow ·.1)⟩, d.contents.filter (!isBelow ·.1), d.modes.filter (!isBelow ·.1)⟩

def rm : Utility := withOptions "rm" 1
  { letters := "dfiIrRv"
    names := [("force", 'f'), ("recursive", 'r'), ("dir", 'd'), ("verbose", 'v')] } fun c g =>
  if g.operands = [] && !g.has 'f' then misused "rm" 1 "missing operand"
  else change "rm" "cannot remove" (fun d file => do
    match d.entry c.directory file with
    | .error e => if g.has 'f' && e = .notFound then return d else throw e
    | .ok l =>
      if (d.tree.get? l).isNone then (if g.has 'f' then return d else throw .notFound)
      else if !d.tree.isDirectory l then return d.remove l
      else if g.has 'r' || g.has 'R' then return removeAll d l
      else if !g.has 'd' then throw .isDirectory
      else if d.tree.isOccupied l then throw .notEmpty
      else return d.remove l) c g.operands

def touch : Utility := withOptions "touch" 1
  { letters := "acd:fhmr:t:", names := [("no-create", 'c'), ("date", 'd'), ("reference", 'r')] } fun c g =>
  if g.operands = [] then misused "touch" 1 "missing file operand"
  else change "touch" "cannot touch" (fun d file => do
    let l ← d.locate c.directory file
    if (d.tree.get? l).isSome || g.has 'c' then return d else d.write l "") c g.operands

/-- Whose permissions letters mean; all of them if there are no letters. -/
def usersOf (letters : List Char) : Nat :=
  if letters = [] ∨ letters.contains 'a' then 0o777
  else ([('u', 0o700), ('g', 0o070), ('o', 0o007)].filter fun u => letters.contains u.1).foldl (fun n u => n ||| u.2) 0

/-- The permissions that letters mean. -/
def permissionsOf (isDirectory : Bool) (mode : Nat) (letters : List Char) : Nat :=
  let runnable := if isDirectory || mode &&& 0o111 ≠ 0 then 0o111 else 0
  ([('r', 0o444), ('w', 0o222), ('x', 0o111), ('X', runnable)].filter fun p => letters.contains p.1).foldl
    (fun n p => n ||| p.2) 0

/-- Changes permissions step by step: a sign and letters after it say what is given, taken or set. -/
def modeSteps (isDirectory : Bool) (users : Nat) : Nat → List Char → Nat → Nat
  | n + 1, sign :: cs, mode =>
    let letters := cs.takeWhile fun c => "rwxXst".toList.contains c
    let meant := permissionsOf isDirectory mode letters &&& users
    let rest := mode &&& (0o7777 ^^^ meant)
    let mode := if sign = '+' then rest ||| meant else if sign = '-' then rest
      else mode &&& (0o7777 ^^^ users) ||| meant
    modeSteps isDirectory users n (cs.drop letters.length) mode
  | _, _, mode => mode

/-- Reads one clause: whose permissions it changes, and the steps of the change. -/
def clause? (clause : String) : Option (List Char × List Char) :=
  let isSign (c : Char) : Bool := c = '+' || c = '-' || c = '='
  let letters := clause.toList.takeWhile fun c => "ugoa".toList.contains c
  let steps := clause.toList.drop letters.length
  if steps.head?.any isSign && steps.all fun c => isSign c || "rwxXst".toList.contains c then some (letters, steps)
  else none

/-- How a word changes permissions: to a number, or as its clauses say. -/
def modeChange? (word : String) : Option (Bool → Nat → Nat) :=
  match word.toList.mapM (digitOf? 8) with
  | some [] => none
  | some ds =>
    let n := ds.foldl (fun n d => 8 * n + d) 0
    if n ≤ 0o7777 then some fun _ _ => n else none
  | none => ((Text.splitAt ',' word).mapM clause?).map fun clauses isDirectory mode =>
    clauses.foldl (fun mode c => modeSteps isDirectory (usersOf c.1) c.2.length c.2 mode) mode

def chmod : Utility := fun c =>
  /- A mode can start with a dash, so what looks like options is not read as such here. -/
  let words := c.arguments.dropWhile fun w => ["-R", "-v", "-f", "-c", "--"].contains w
  match words with
  | [] => misused "chmod" 1 "missing operand"
  | [mode] => misused "chmod" 1 ("missing operand after " ++ quoted mode)
  | mode :: files =>
    match modeChange? mode with
    | none => misused "chmod" 1 ("invalid mode: " ++ quoted mode)
    | some newMode =>
      change "chmod" "cannot access" (fun d file => do
        let l ← d.find c.directory file
        let changed := newMode (d.tree.isDirectory l) (d.modeOf l)
        return { d with modes := (l, changed) :: d.modes.filter (·.1 != l) }) c files

/-! ## Copying -/

/-- What is wrong with one step of copying. -/
abbrev Copied := Except String Disk

/-- Checks the operands of a program that copies: sources, and a target that has to be a directory if there
are several of them. Then takes each source to its place. -/
def transfer (name : String) (c : Call) (operands : List String) (one : Disk → String → String → Copied) :
    Result :=
  match operands.reverse with
  | [] => misused name 1 "missing file operand"
  | [source] => misused name 1 ("missing destination file operand after " ++ shellQuoted source)
  | target :: sources =>
    let l := c.disk.find c.directory target
    let isDirectory := l.toOption.any c.disk.tree.isDirectory
    let place (source : String) : String :=
      if isDirectory then
        Text.trimEndOf '/' target ++ "/" ++ (Text.splitAt '/' (Text.trimEndOf '/' source)).getLast?.getD ""
      else target
    if 1 < sources.length && !isDirectory then
      failing 1 (name ++ ": target " ++ shellQuoted target ++
        ": " ++ (match l with
          | .ok _ => Errno.notDirectory.description
          | .error e => e.description))
    else sources.reverse.foldl (fun r source =>
      match one (r.disk.getD c.disk) source (place source) with
      | .ok d => { r with disk := some d }
      | .error e => { r with code := 1, err := r.err ++ name ++ ": " ++ e ++ "\n" }) {}

/-- The location of a source, as a way to find it gives it. -/
def sourceOf (d : Disk) (find : Disk → String → Except Errno Location) (source : String) : Except String Location :=
  (do
    let l ← find d source
    if (d.tree.get? l).isSome then return l else throw .notFound : Except Errno Location).mapError fun e =>
      "cannot stat " ++ shellQuoted source ++ ": " ++ e.description

/-- Checks that a file does not replace itself, and returns where its place is. -/
def placeOf (d : Disk) (c : Call) (l : Location) (source target : String) : Except String (Except Errno Location) :=
  if (d.find c.directory target).toOption = some l then
    .error (shellQuoted source ++ " and " ++ shellQuoted target ++ " are the same file")
  else .ok (d.locate c.directory target)

/-- Puts what is at a location and below it also at another one. -/
def copyAll (d : Disk) (source target : Location) : Disk :=
  let moved (k : Location) : Option Location :=
    if source.isSuffixOf k then some (k.take (k.length - source.length) ++ target) else none
  let entries := d.tree.entries.filterMap fun e => (moved e.1).map fun k => (k, e.2)
  let isKept (k : Location) : Bool := (entries.lookup k).isNone
  let contents := d.contents.filterMap fun e => (moved e.1).map fun k => (k, e.2)
  let modes := entries.filterMap fun e => match e.2 with
    | .file => some (e.1, d.modeOf (e.1.take (e.1.length - target.length) ++ source))
    | _ => none
  ⟨⟨entries ++ d.tree.entries.filter (isKept ·.1)⟩, contents ++ d.contents.filter (isKept ·.1),
    modes ++ d.modes.filter (isKept ·.1)⟩

def cp : Utility := withOptions "cp" 1
  { letters := "abdfHilLnPprRsTuvx", names := [("recursive", 'r'), ("archive", 'a'), ("force", 'f')] } fun c g =>
  transfer "cp" c g.operands fun d source target => do
    let l ← sourceOf d (fun d s => d.find c.directory s) source
    let place ← placeOf d c l source target
    if d.tree.isDirectory l then
      if ['r', 'R', 'a'].any g.has then
        match place with
        | .ok k => return copyAll d l k
        | .error e => throw ("cannot create directory " ++ shellQuoted target ++ ": " ++ e.description)
      else throw ("-r not specified; omitting directory " ++ shellQuoted source)
    else
      let written : Except Errno Disk := do
        let k ← place
        let copied ← d.write k (← d.read l Disk.enough)
        return if (d.tree.get? k).isSome then copied else { copied with modes := (k, d.modeOf l) :: copied.modes }
      written.mapError fun e => "cannot create regular file " ++ shellQuoted target ++ ": " ++ e.description

def mv : Utility := withOptions "mv" 1
  { letters := "bfinTuv", names := [("force", 'f'), ("no-clobber", 'n')] } fun c g =>
  transfer "mv" c g.operands fun d source target => do
    let l ← sourceOf d (fun d s => d.entry c.directory s) source
    match ← placeOf d c l source target with
    | .ok k => return if d.tree.isDirectory l then removeAll (copyAll d l k) l else (copyAll d l k).remove l
    | .error e =>
      throw ("cannot move " ++ shellQuoted source ++ " to " ++ shellQuoted target ++ ": " ++ e.description)

def ln : Utility := withOptions "ln" 1
  { letters := "bdfFiLnPrsTv", names := [("symbolic", 's'), ("force", 'f')] } fun c g =>
  let operands := match g.operands with
    | [source] => [source, "."]
    | operands => operands
  transfer "ln" c operands fun d source target => do
    let linked : Except Errno Disk := do
      let k ← d.entry c.directory target
      if (d.tree.get? k).isSome && !g.has 'f' then throw .alreadyExists
      if g.has 's' then return { d with tree := d.tree.insert k (.link (ByteText.toBytes source)) }
      else return copyAll d (← d.find c.directory source) k
    if (d.find c.directory source).toOption.isNone && !g.has 's' then
      throw ("failed to access " ++ shellQuoted source ++ ": " ++ Errno.notFound.description)
    linked.mapError fun e =>
      "failed to create " ++ (if g.has 's' then "symbolic" else "hard") ++ " link " ++ shellQuoted target ++ ": " ++
        e.description

/-! ## Comparing -/

/-- Where two texts begin to differ: after so many characters and line breaks. -/
def differenceOf : List Char → List Char → Nat × Nat
  | a :: as, b :: bs =>
    if a = b then
      let (n, ls) := differenceOf as bs
      (n + 1, if a = '\n' then ls + 1 else ls)
    else (0, 0)
  | _, _ => (0, 0)

def cmp : Utility := fun c =>
  let wrong (s : String) : Result := failing 2 ("cmp: " ++ s ++ "\ncmp: " ++ hint "cmp")
  let o : Options := { letters := "bi:ln:sv", names := [("quiet", 's'), ("silent", 's')] }
  match o.read c.arguments with
  | .error e => wrong (optionComplaint e)
  | .ok { operands := [], .. } => wrong "missing operand after 'cmp'"
  | .ok { options, operands } =>
    let say (s : String) : String := if options.any (·.1 = 's') then "" else s ++ "\n"
    let files := operands.take 2 ++ (if operands.length = 1 then ["-"] else [])
    let hasRead := files.contains "-"
    match sources "cmp" .plain Disk.enough c files with
    | [⟨x, .ok a⟩, ⟨y, .ok b⟩] =>
      let (n, ls) := differenceOf a.toList b.toList
      let line := Number.naturalText (ls + 1)
      if a = b then { hasRead }
      else if n < a.length ∧ n < b.length then
        { code := 1
          hasRead
          out := say (x ++ " " ++ y ++ " differ: char " ++ Number.naturalText (n + 1) ++ ", line " ++ line) }
      else
        let short := if n = a.length then x else y
        { code := 1
          hasRead
          err := say ("cmp: EOF on " ++ short ++
            (if n = 0 then " which is empty"
              else " after byte " ++ Number.naturalText n ++ ", " ++
                (if (a.toList.take n).getLast? = some '\n' then "line " ++ Number.naturalText ls
                  else "in line " ++ line))) }
    | read => { code := 2, err := lines ((complaints read).take 1), hasRead }

end Utility

end TrafficShaping.Program
