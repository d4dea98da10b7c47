import TrafficShaping.Number.Decimal
import TrafficShaping.Program.Machine
import TrafficShaping.Program.Options
import TrafficShaping.Program.Utility.Quoting
import TrafficShaping.Text.Blank
import TrafficShaping.Text.Hex

/-!
# Utilities

A utility is a program that is a function of how it is called and of what it reads. All texts in it are
texts of bytes.
-/

namespace TrafficShaping.Program

/-- What a program is given, and the file that its output goes to if that is one. -/
structure Call where
  arguments : List String
  input : String := ""
  environment : List (String × String) := []
  disk : Disk := {}
  directory : Location := Machine.workDirectory
  output : Option Location := none

/-- What a program leaves behind: a code, what it wrote, and the disk if it was changed. Complaints come
first. A program that has not looked at its input leaves it to the next one, and some wait for a number of
millionths of a second. -/
structure Result where
  code : Nat := 0
  out : String := ""
  err : String := ""
  disk : Option Disk := none
  hasRead : Bool := false
  lasts : Nat := 0

abbrev Utility := Call → Result

namespace Utility

def writing (s : String) : Result := { out := s }

/-- The value of a digit of a base up to 16. -/
def digitOf? (base : Nat) (c : Char) : Option Nat :=
  (Text.hexValue? (UInt8.ofNat c.toNat)).filter fun d => c.toNat < 128 && d < base

/-- A failure of a program, with its complaint. -/
def failing (code : Nat) (complaint : String) : Result := { code, err := complaint ++ "\n" }

/-- How programs point to their documentation. -/
def hint (name : String) : String := "Try '" ++ name ++ " --help' for more information."

/-- A failure of a program that was called in a wrong way. -/
def misused (name : String) (code : Nat) (complaint : String) : Result :=
  failing code (name ++ ": " ++ complaint ++ "\n" ++ hint name)

def optionComplaint : Options.Fault → String
  | .unknown c => "invalid option -- '" ++ c.toString ++ "'"
  | .unknownName w => "unrecognized option '" ++ w ++ "'"
  | .noValue c => "option requires an argument -- '" ++ c.toString ++ "'"
  | .noValueOfName name => "option '--" ++ name ++ "' requires an argument"

/-- A program with options, and the code that it ends with if they are wrong. -/
def withOptions (name : String) (code : Nat) (o : Options) (run : Call → Given → Result) : Utility := fun c =>
  match o.read c.arguments with
  | .error e => misused name code (optionComplaint e)
  | .ok g => run c g

/-- An integer in decimal. -/
def integer? (s : String) : Option Int :=
  match s.toList with
  | '-' :: cs => (Number.natural? cs).map fun n => -n
  | '+' :: cs => (Number.natural? cs).map fun n => (n : Int)
  | cs => (Number.natural? cs).map fun n => (n : Int)

/-- Texts with a line break after each. -/
def lines (ls : List String) : String := String.join (ls.map (· ++ "\n"))

/-- The lines of a text; whether the last one has an end makes no difference. -/
def linesOf (s : String) : List String :=
  let ls := Text.splitAt '\n' s
  if ls.getLast? = some "" then ls.dropLast else ls

/-- The lines of a text with their ends. -/
def wholeLines (s : String) : List String :=
  match (Text.splitAt '\n' s).reverse with
  | [] => []
  | last :: before => before.reverse.map (· ++ "\n") ++ (if last = "" then [] else [last])

/-- Text brought to a width with characters in front. -/
def padded (width : Nat) (c : Char) (s : String) : String := "".pushn c (width - s.length) ++ s

/-! ## Files that are read -/

/-- What a program says about a file that it cannot open or cannot read, and why; and what it says, if anything,
about the file that its output goes to, which may be empty. -/
structure Wording where
  closed : String → String → String := fun file reason => shellWord file ++ ": " ++ reason
  unreadable : String → String → String := fun file reason => shellWord file ++ ": " ++ reason
  own? : Bool → Option String := fun _ => none

/-- What a program says that shows the names of files as they are. -/
def Wording.plain : Wording :=
  let told (file reason : String) : String := file ++ ": " ++ reason
  { closed := told, unreadable := told }

/-- A file that a program was to read: what it is called, and what is in it or what the program says. -/
structure Source where
  file : String
  text : Except String String

/-- What the files of a call hold, in order, where a dash is the input. -/
def sources (name : String) (w : Wording) (wanted : Nat) (c : Call) (files : List String) : List Source :=
  let one (file : String) : Source :=
    if file = "-" then ⟨file, .ok c.input⟩
    else match c.disk.find c.directory file with
      | .error e => ⟨file, .error (name ++ ": " ++ w.closed file e.description)⟩
      | .ok l =>
        if Disk.isDevice l ["stdin"] then ⟨file, .ok c.input⟩
        else match c.disk.read l wanted with
          | .ok s =>
            match (if c.output = some l then w.own? (s = "") else none) with
            | some reason => ⟨file, .error (name ++ ": " ++ w.unreadable file reason)⟩
            | none => ⟨file, .ok s⟩
          | .error e => ⟨file, .error (name ++ ": " ++ w.unreadable file e.description)⟩
  files.map one

/-- The complaints about files. -/
def complaints (sources : List Source) : List String := sources.filterMap fun s =>
  match s.text with
  | .error e => some e
  | .ok _ => none

/-- The files that could be read, with what is in them. -/
def texts (sources : List Source) : List (String × String) := sources.filterMap fun s =>
  match s.text with
  | .ok text => some (s.file, text)
  | .error _ => none

/-- The files to read: the input if none is named. -/
def filesOf (operands : List String) : List String := if operands = [] then ["-"] else operands

/-- Works on the files of a call put together. -/
def filter (name : String) (w : Wording) (code : Nat) (work : String → String) (c : Call) (operands : List String) :
    Result :=
  let read := sources name w Disk.enough c (filesOf operands)
  { code := if complaints read = [] then 0 else code
    out := work (String.join ((texts read).map (·.2)))
    err := lines (complaints read)
    hasRead := (filesOf operands).contains "-" }

end Utility

end TrafficShaping.Program
