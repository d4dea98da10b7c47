import TrafficShaping.Program.Utility.Basic

/-!
# Streams that fail

What a program says where it cannot read its input, since there is none, and where it cannot write what it has
to write. Most programs say the same. The differences are in a table.
-/

namespace TrafficShaping.Program

namespace Utility

/-- What a program does that has no input although it reads it. -/
def withoutInput (name : String) (r : Result) : Result :=
  let reason := Errno.badDescriptor.description
  let fault (code : Nat) (complaints : List String) : Result :=
    { r with code, out := "", err := lines (complaints.map fun s => name ++ ": " ++ s ++ ": " ++ reason) }
  match name with
  | "cat" => fault 1 ["-", "closing standard input"]
  | "head" => fault 1 ["error reading 'standard input'", "-"]
  | "wc" =>
    let counts := (Text.splitAt ' ' r.out).filter (· ≠ "")
    { fault 1 ["'standard input'", "-"] with out := Text.joinWith " " counts }
  | "sort" => fault 2 ["stat failed: -"]
  | "uniq" => fault 1 ["error reading '-'"]
  | "tr" | "base64" => fault 1 ["read error"]
  | "sed" => fault 4 ["read error on stdin"]
  | "grep" => fault 2 ["(standard input)"]
  | "tac" => fault 1 ["'standard input': read error", "-"]
  | "tail" => fault 1 ["cannot fstat 'standard input'", "-"]
  | "tee" => fault 1 ["read error", "standard input"]
  | "cmp" => fault 2 ["-"]
  | "dd" => fault 1 ["error reading 'standard input'", "closing input file 'standard input'"]
  | "md5sum" | "sha1sum" | "sha224sum" | "sha256sum" | "sha384sum" | "sha512sum" | "cksum" | "sum" =>
    fault 1 ["-", "standard input"]
  | _ => fault 1 ["-", "-"]

/-- What a program says that cannot write, and its code. -/
def withoutOutput (name : String) (e : Errno) : List String × Nat :=
  let isFull := e = .noSpace
  let reason := e.description
  match name with
  | "cat" => ([if isFull then "write error: " ++ reason else "standard output: " ++ reason], 1)
  | "sort" => (["fflush failed: 'standard output': " ++ reason, "write error"], 2)
  | "sed" => (["couldn't " ++ (if isFull then "flush" else "close") ++ " stdout: " ++ reason], 4)
  | "tee" => (["'standard output': " ++ reason], 1)
  | "yes" => (["standard output: " ++ reason], 1)
  | "wc" | "md5sum" | "sha1sum" | "sha224sum" | "sha256sum" | "sha384sum" | "sha512sum" | "cksum" | "sum" =>
    (["write error" ++ (if isFull then "" else ": " ++ reason)], 1)
  | "grep" | "ls" | "printenv" => (["write error: " ++ reason], 2)
  | "expr" => (["write error: " ++ reason], 3)
  | "env" => (["write error: " ++ reason], 125)
  | _ => (["write error: " ++ reason], 1)

end Utility

end TrafficShaping.Program
