import TrafficShaping.Program.Arithmetic
import TrafficShaping.Program.Shell.Fields
import TrafficShaping.Program.Shell.State

/-!
# Expanding words

The words of a command are expanded when it is run: parameters are replaced by their values, scripts by what
they write and expressions by what they come to. What comes of this outside of quotes is cut into fields,
and a field that is a pattern is replaced by the paths that it matches.

How a script is run is not said here; expanding is given a way to do it.
-/

namespace TrafficShaping.Program

namespace Shell

/-- Runs scripts for what they write. -/
abbrev Capture := List Script → Run String

/-! ## Parameters -/

/-- Characters that came out of an expansion. -/
def ofValue (isQuoted : Bool) (s : String) : List Item :=
  if isQuoted then s.toList.map .kept else .region false :: s.toList.map .loose

/-- Several values that came out of an expansion. -/
def ofValues (isQuoted : Bool) : List String → List Item
  | [] => if isQuoted then [] else [.region false]
  | vs => .region isQuoted :: [Item.cut].intercalate (vs.map fun v =>
    v.toList.map (if isQuoted then .kept else .loose))

/-- How a word is expanded: whether it becomes fields, whether it takes the place of a value, and whether it is
assigned. What stands in a word that takes the place of a value may be cut like the value. -/
structure Manner where
  isSplit : Bool := false
  isValue : Bool := false
  isAssigned : Bool := false

/-- Whether a parameter stands for all arguments one by one. -/
def Manner.lists (m : Manner) (name : String) (isQuoted : Bool) : Bool :=
  m.isSplit && (name = "@" || name = "*" && !isQuoted)

/-- The text of a parameter, which is empty if it has no value. -/
def textOfParameter (name : String) : Run String := do
  let st ← get
  if name = "@" ∨ name = "*" then
    return Text.joinWith (String.ofList ((separators st).toList.take 1)) st.arguments
  match value? st name with
  | some s => return s
  | none => if hasOption st 'u' then fail (name ++ ": parameter not set") else return ""

/-- The items of a parameter's value. -/
def valueOf (m : Manner) (name : String) (isQuoted : Bool) : Run (List Item) := do
  let st ← get
  if m.lists name isQuoted then return ofValues isQuoted st.arguments
  let s ← textOfParameter name
  return if (value? st name).isSome then ofValue isQuoted s else []

/-! ## Taking parts of values away -/

/-- The characters that a backslash stands in front of when they come out of quotes. -/
def isProtected (c : Char) : Bool := "!*?[=~:/-]\\".toList.contains c

/-- The last of some texts that ends as a pattern says without that end, and the texts before it. -/
def dropLastEnd? (p : Pattern) : List String → Option (List String)
  | [] => none
  | v :: vs =>
    match dropLastEnd? p vs with
    | some vs => some (v :: vs)
    | none =>
      let cs := v.toList
      if (List.range (cs.length + 1)).any fun n => Pattern.covers p (cs.drop n) then
        some [String.ofList (Pattern.dropEnd p false cs)]
      else none

/-- Takes away a part of the values of a list, which hang together: what is looked for is found in the
first value, or at the end of any of them, but the part reaches as far as the list does. If characters of the
first value are protected, a part at the end of the list is as long as what is found in that value. -/
def trimmedList (p : Pattern) (atEnd longest isQuoted : Bool) (vs : List String) : List String :=
  match vs with
  | [] => []
  | [v] => [String.ofList ((if atEnd then Pattern.dropEnd else Pattern.dropStart) p longest v.toList)]
  | v :: rest =>
    let cs := v.toList
    let lengths := List.range (cs.length + 1)
    let total := [none].intercalate (vs.map fun v => v.toList.map some)
    let cut (cs : List (Option Char)) : List String :=
      (Text.pieces (·.isNone) cs).map fun piece => String.ofList (piece.filterMap id)
    let isShielded := isQuoted && cs.any isProtected
    match atEnd, longest with
    | false, false => String.ofList (Pattern.dropStart p false cs) :: rest
    | false, true =>
      if isShielded then
        match lengths.reverse.find? fun n => Pattern.covers p (cs.take n) with
        | some n => cut (total.drop (total.length - (cs.length - n)))
        | none => vs
      else if Pattern.covers p cs then [""]
      else String.ofList (Pattern.dropStart p true cs) :: rest
    | true, false =>
      if isShielded then
        match lengths.find? fun n => Pattern.covers p (cs.drop (cs.length - n)) with
        | some n => cut (total.take (total.length - n))
        | none => vs
      else (dropLastEnd? p vs).getD vs
    | true, true =>
      match lengths.find? fun n => Pattern.covers p (cs.drop n) with
      | some n => [String.ofList (cs.take n)]
      | none => vs

/-! ## Arithmetic -/

/-- The value of an expression. -/
def evaluateArithmetic (s : String) : Run String := do
  let failing (e : Arithmetic.Failure) : Run Int := do
    if e = .overflow then throw (.killed (← get).process Signal.arithmetic)
    fail ("arithmetic expression: " ++ e.message ++ ": \"" ++ s ++ "\"")
  let look (name : String) : Run Int := do
    let v := (value? (← get) name).getD ""
    if v.toList.all Arithmetic.isBlank then return 0
    match Arithmetic.integer? v with
    | some n => return n
    | none => fail ("Illegal number: " ++ v)
  let put (name : String) (n : Int) : Run Unit := assign name (Number.integerText n)
  return Number.integerText (← (Arithmetic.read s).evaluate look put failing)

/-! ## Home directories -/

/-- The directory that a user is at home in; no name is the user of the shell. -/
def home? (st : Shell) (user : String) : Option String :=
  if user = "" then lookup st "HOME"
  else
    let accounts := (st.world.disk.contents.lookup (Machine.location "etc/passwd")).getD ""
    let rows := (Text.splitAt '\n' accounts).map (Text.splitAt ':')
    (rows.find? fun row => row.head? = some user).bind fun row => row[5]?

/-- The directory that takes the place of a tilde and of what follows it up to a slash, and how many parts that
is. In the value of an assignment a colon ends it too. -/
def homeBehind? (st : Shell) (atColon : Bool) (w : Word) : Option (String × Nat) :=
  let user := w.takeWhile fun
    | .char c false => c ≠ '/' && !(atColon && c = ':')
    | _ => false
  let isWhole := match w[user.length]? with
    | none => true
    | some (.char _ false) => true
    | some _ => false
  match Word.plain? user with
  | some name => (if isWhole then home? st name else none).map fun s => (s, user.length)
  | none => none

/-! ## Words -/

/-- What a script wrote, without the line breaks at the end. -/
def withoutLastBreaks (s : String) : String :=
  Text.trimEndOf '\n' (String.ofList (s.toList.filter (· ≠ '\x00')))

/-- Whether a part of a word is a character that is not quoted. -/
def isPlain : Part → Bool
  | .char _ isQuoted => !isQuoted
  | _ => false

/-- Where in a word one is: whether behind a character that is not quoted, whether where a tilde may stand for a
directory, and how many parts have been dealt with already. -/
structure Progress where
  afterPlain : Bool := false
  mayBeHome : Bool := false
  skipped : Nat := 0

mutual

/-- Expands a word. -/
def expandWord (capture : Capture) (m : Manner) : Progress → List Part → Run (List Item)
  | _, [] => return []
  | { skipped := n + 1, .. }, _ :: ps => expandWord capture m { afterPlain := true, skipped := n } ps
  | { afterPlain, mayBeHome, skipped := 0 }, p :: ps => do
    let isAt (c : Char) : Bool := match p with
      | .char d false => d = c
      | _ => false
    let st ← get
    match if mayBeHome && isAt '~' then homeBehind? st m.isAssigned ps else none with
    | some (s, taken) => return s.toList.map .kept ++ (← expandWord capture m { skipped := taken } ps)
    | none => do
      let items ← expandPart capture m afterPlain p
      let next : Progress := { afterPlain := isPlain p, mayBeHome := m.isAssigned && isAt ':' }
      return items ++ (← expandWord capture m next ps)

def expandPart (capture : Capture) (m : Manner) : Bool → Part → Run (List Item)
  | _, .char c true => return [.kept c]
  | afterPlain, .char c false =>
    return if m.isValue then (if afterPlain then [.loose c] else [.region false, .loose c]) else [.plain c]
  | _, .empty => return [.mark]
  | _, .parameter name form isQuoted => expandForm capture m name isQuoted form
  | _, .output scripts isQuoted => return ofValue isQuoted (withoutLastBreaks (← capture scripts))
  | _, .arithmetic w isQuoted => do
    let s := Item.text (← expandWord capture {} {} w)
    return ofValue isQuoted (← evaluateArithmetic s)

def expandForm (capture : Capture) (m : Manner) (name : String) (isQuoted : Bool) : Form → Run (List Item)
  | .value => valueOf m name isQuoted
  | .length => do
    return ofValue isQuoted (Number.naturalText (← textOfParameter name).length)
  | .fallback kind ifEmpty w => do
    let value := value? (← get) name
    let isEmpty ← match value with
      | none => pure false
      | some s =>
        if m.lists name isQuoted || !(["@", "*"].contains name) then pure (s = "")
        else pure ((← textOfParameter name) = "")
    let isThere := value.isSome && !(ifEmpty && isEmpty)
    match kind, isThere with
    | .alternative, false => return []
    | .alternative, true | .value, false =>
      expandWord capture { m with isValue := !isQuoted } { mayBeHome := true } w
    | .value, true | .assign, true | .complain, true => valueOf m name isQuoted
    | .assign, false => do
      let s := Item.text (← expandWord capture {} { mayBeHome := true } w)
      if !isName name then fail (name ++ ": bad variable name")
      assign name s
      return ofValue isQuoted s
    | .complain, false => do
      let s := Item.text (← expandWord capture {} { mayBeHome := true } w)
      let standard := "parameter not set" ++ (if ifEmpty then " or null" else "")
      fail (name ++ ": " ++ (if w.isEmpty then standard else s))
  | .trimmed atEnd longest pattern => do
    let st ← get
    let isList := m.lists name isQuoted
    let s ← if isList then pure "" else textOfParameter name
    if (value? st name).isNone then return []
    let p := Item.pattern (← expandWord capture {} { mayBeHome := true } pattern)
    if isList then return ofValues isQuoted (trimmedList p atEnd longest isQuoted st.arguments)
    let drop := if atEnd then Pattern.dropEnd else Pattern.dropStart
    return ofValue isQuoted (String.ofList (drop p longest s.toList))
  | .meaningless => fail "Bad substitution"

end

/-! ## Paths -/

/-- The paths that match names put after paths. Names that start with a dot are only matched by patterns that
do. -/
def matching (d : Disk) (directory : Location) : List String → List (List Written) → List String
  | paths, [] => paths.filter fun p => (d.find directory p).toOption.isSome
  | paths, name :: names =>
    let join (path : String) (n : String) : String := path ++ n ++ (if names = [] then "" else "/")
    if name.any fun c => !c.2 && (c.1 = '*' || c.1 = '?' || c.1 = '[') then
      let pattern := Pattern.ofWritten name
      let fits (n : String) : Bool :=
        Pattern.covers pattern n.toList && (!n.startsWith "." || name.head?.any (·.1 = '.'))
      matching d directory (paths.flatMap fun path =>
        match d.find directory (if path = "" then "." else path) with
        | .ok l => (("." :: ".." :: d.names l).filter fits).map (join path)
        | .error _ => []) names
    else matching d directory (paths.map fun path => join path (String.ofList (name.map (·.1)))) names

/-- The paths that a field stands for; the field itself if it is no pattern or matches nothing. -/
def pathsOf (st : Shell) (field : List Written) : List String :=
  let itself := [String.ofList (field.map (·.1))]
  if hasOption st 'f' || !(field.any fun c => !c.2 && (c.1 = '*' || c.1 = '?' || c.1 = '[')) then itself
  else
    match matching st.world.disk st.directory [""] (Text.pieces (·.1 == '/') field) with
    | [] => itself
    | paths => paths.mergeSort fun a b => decide (a ≤ b)

/-! ## Uses of words -/

/-- The fields that a word stands for. -/
def fieldsOf (capture : Capture) (w : Word) : Run (List String) := do
  let items ← expandWord capture { isSplit := true } { mayBeHome := true } w
  let st ← get
  return (Fields.split (separators st) items).flatMap (pathsOf st)

/-- A word as one text. -/
def textOf (capture : Capture) (w : Word) : Run String :=
  return Item.text (← expandWord capture {} { mayBeHome := true } w)

/-- The value that a word gives to a parameter. -/
def assignedOf (capture : Capture) (w : Word) : Run String :=
  return Item.text (← expandWord capture { isAssigned := true } { mayBeHome := true } w)

/-- The pattern of a word. -/
def patternOf (capture : Capture) (w : Word) : Run Pattern :=
  return Item.pattern (← expandWord capture {} { mayBeHome := true } w)

/-- The text of a here document, in which a tilde is just that. -/
def documentOf (capture : Capture) (w : Word) : Run String :=
  return Item.text (← expandWord capture {} {} w)

end Shell

end TrafficShaping.Program
