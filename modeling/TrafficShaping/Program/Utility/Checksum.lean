import TrafficShaping.Program.Digest
import TrafficShaping.Program.Utility.Basic

/-!
# Checksums of files

Every digest has a program that writes it for each file, and that checks files against digests written
before. Older checksums are written as plain numbers.
-/

namespace TrafficShaping.Program

namespace Utility

/-- A digest: the program that writes it, what it is called, and how long it is. -/
structure Checksum where
  program : String
  title : String
  size : Nat
  digest : List UInt8 → List UInt8

namespace Checksum

def md5 : Checksum := ⟨"md5sum", "MD5", 16, Digest.Md5.digest⟩

def sha1 : Checksum := ⟨"sha1sum", "SHA1", 20, Digest.Sha1.digest⟩

def sha224 : Checksum := ⟨"sha224sum", "SHA224", 28, Digest.Sha2.sha224⟩

def sha256 : Checksum := ⟨"sha256sum", "SHA256", 32, Digest.Sha2.sha256⟩

def sha384 : Checksum := ⟨"sha384sum", "SHA384", 48, Digest.Sha2.sha384⟩

def sha512 : Checksum := ⟨"sha512sum", "SHA512", 64, Digest.Sha2.sha512⟩

/-- The digest of a text in hexadecimal. -/
def text (k : Checksum) (s : String) : String :=
  String.join ((k.digest (ByteText.toBytes s)).map fun b =>
    padded 2 '0' (String.ofList (Nat.toDigits 16 b.toNat)))

/-! ## Writing -/

/-- The name of a file with its line breaks and backslashes escaped. -/
def escaped (file : String) : String :=
  String.join (file.toList.map fun c =>
    if c = '\\' then "\\\\" else if c = '\n' then "\\n" else if c = '\r' then "\\r" else c.toString)

/-- A digest with the name of its file. A backslash in front says that the name has escapes. -/
def line (k : Checksum) (g : Given) (file s : String) : String :=
  let named := if g.has 'z' then file else escaped file
  let mark := if named = file then "" else "\\"
  let ending := if g.has 'z' then "\x00" else "\n"
  if g.has '\x01' then mark ++ k.title ++ " (" ++ named ++ ") = " ++ k.text s ++ ending
  else mark ++ k.text s ++ (if g.has 'b' then " *" else "  ") ++ named ++ ending

/-! ## Checking -/

/-- The digest and the file in a line that was written before. -/
def claim? (k : Checksum) (line : String) : Option (String × String) :=
  let digits := line.toList.takeWhile fun c => c.isDigit || 'a' ≤ c && c ≤ 'f' || 'A' ≤ c && c ≤ 'F'
  match line.toList.drop digits.length with
  | ' ' :: mark :: file =>
    if digits.length = 2 * k.size ∧ (mark = ' ' ∨ mark = '*') ∧ file ≠ [] then
      some (String.ofList (digits.map Char.toLower), String.ofList file)
    else none
  | _ => none

/-- What checking a file comes to. -/
inductive Verdict where
  | ok
  | failed
  | unread (complaint : String)
deriving DecidableEq

def Verdict.text : Verdict → String
  | .ok => "OK"
  | .failed => "FAILED"
  | .unread _ => "FAILED open or read"

/-- Whether a file has the digest that is claimed of it. -/
def judge (k : Checksum) (c : Call) (digest file : String) : Verdict :=
  match sources k.program {} Disk.enough c [file] with
  | ⟨_, .ok text⟩ :: _ => if k.text text = digest then .ok else .failed
  | ⟨_, .error e⟩ :: _ => .unread e
  | [] => .ok

/-- A warning that counts things, with the words for one and for more. -/
def warning (k : Checksum) (n : Nat) (one more : String) : List String :=
  if n = 0 then []
  else [k.program ++ ": WARNING: " ++ Number.naturalText n ++ " " ++ if n = 1 then one else more]

/-- Checks what a list of digests claims. -/
def check (k : Checksum) (c : Call) (g : Given) (list s : String) : Result :=
  let rows := linesOf s
  let claims := rows.filterMap k.claim?
  let shown := if list = "-" then "'standard input'" else list
  if claims = [] then failing 1 (k.program ++ ": " ++ shown ++ ": no properly formatted checksum lines found")
  else
    let judged := claims.map fun claim => (claim.2, k.judge c claim.1 claim.2)
    let unread := judged.filterMap fun j => match j.2 with
      | .unread e => some e
      | _ => none
    let failed := (judged.filter (·.2 = .failed)).length
    let warnings :=
      k.warning (rows.length - claims.length) "line is improperly formatted" "lines are improperly formatted" ++
        k.warning unread.length "listed file could not be read" "listed files could not be read" ++
        k.warning failed "computed checksum did NOT match" "computed checksums did NOT match"
    let told := judged.filter fun j => !g.has '\x02' && !(g.has '\x03' && j.2 = .ok)
    { code := if failed = 0 ∧ unread = [] then 0 else 1
      out := lines (told.map fun j => j.1 ++ ": " ++ j.2.text)
      err := lines (unread ++ if g.has '\x02' then [] else warnings)
      hasRead := list = "-" }

def options : Options where
  letters := "bctwz\x01\x02\x03"
  names := [("binary", 'b'), ("check", 'c'), ("tag", '\x01'), ("text", 't'), ("zero", 'z'), ("status", '\x02'),
    ("quiet", '\x03'), ("warn", 'w')]

def utility (k : Checksum) : Utility := withOptions k.program 1 options fun c g =>
  let files := filesOf g.operands
  let read := sources k.program {} Disk.enough c files
  if g.has 'c' then
    (texts read).foldl
      (fun r (list, s) =>
        let r' := k.check c g list s
        { code := max r.code r'.code, out := r.out ++ r'.out, err := r.err ++ r'.err
          hasRead := r.hasRead || r'.hasRead })
      { code := if complaints read = [] then 0 else 1, err := lines (complaints read) }
  else
    { code := if complaints read = [] then 0 else 1
      out := String.join ((texts read).map fun (file, s) => k.line g file s)
      err := lines (complaints read)
      hasRead := files.contains "-" }

def all : List Checksum := [md5, sha1, sha224, sha256, sha384, sha512]

end Checksum

/-! ## Plain numbers -/

/-- Writes a number for each file with its name, which is left out where no file is named. -/
def numbering (name : String) (number : String → String) (c : Call) (g : Given) : Result :=
  let read := sources name {} Disk.enough c (filesOf g.operands)
  { code := if complaints read = [] then 0 else 1
    out := lines ((texts read).map fun (file, s) =>
      number s ++ if g.operands = [] then "" else " " ++ file)
    err := lines (complaints read)
    hasRead := (filesOf g.operands).contains "-" }

def cksum : Utility := withOptions "cksum" 1
  { letters := "a:bctwz\x01\x04"
    names := [("algorithm", 'a'), ("tag", '\x01'), ("untagged", '\x04'), ("check", 'c'), ("zero", 'z')] } fun c g =>
  match (g.value? 'a').bind fun a => Checksum.all.find? fun k => k.title.toLower = a with
  | some k =>
    let arguments := g.operands.map fun w => if w.startsWith "-" && w ≠ "-" then "./" ++ w else w
    { k with program := "cksum" }.utility
      { c with arguments := (if g.has '\x04' then [] else ["--tag"]) ++ arguments }
  | none =>
    numbering "cksum" (fun s =>
      Number.naturalText (Digest.crc (ByteText.toBytes s)) ++ " " ++ Number.naturalText s.length) c g

def sum : Utility := withOptions "sum" 1 { letters := "rs", names := [("sysv", 's')] } fun c g =>
  let blocks (size : Nat) (s : String) : String := Number.naturalText ((s.length + size - 1) / size)
  numbering "sum"
    (fun s =>
      if g.has 's' then Number.naturalText (Digest.foldedSum (ByteText.toBytes s)) ++ " " ++ blocks 512 s
      else
        padded 5 '0' (Number.naturalText (Digest.turnedSum (ByteText.toBytes s))) ++ " " ++
          padded 5 ' ' (blocks 1024 s))
    c g

end Utility

end TrafficShaping.Program
