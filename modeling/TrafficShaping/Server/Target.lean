/-!
# Request targets

What a request is about is named in one of three ways: by a path with or without a query, by the name of a
server and then a path, or by the name of a server alone. A star stands for the server as a whole.

`targetPath` reads a target and gives its path. A query is no part of the path but has to be well-formed all
the same. A fragment may hold anything, as long as the target can stand in the first line of a request, which
is what `Target.isWord` says.
-/

namespace TrafficShaping

/-- Why a target cannot be read. -/
inductive TargetError where
  | malformed
  | tooLong
deriving DecidableEq

namespace Target

/-- The most bytes a target may have. -/
def limit : Nat := 65534

/-- Whether a target is one word of the first line of a request. -/
def isWord (target : String) : Bool := target.toList.all fun c => 0x21 ≤ c.toNat && c.toNat ≠ 0x7f

/-- Whether a character may stand in a query. -/
def isQueryChar (c : Char) : Bool := 0x21 ≤ c.toNat && !(['\"', '#', '<', '>'].contains c)

/-- Whether a character may stand in a path. -/
def isPathChar (c : Char) : Bool :=
  c = '\"' || isQueryChar c && !(['?', '\x60'].contains c)

/-- The path that a text starts with, if a query and a fragment follow it or nothing does. -/
def path? (cs : List Char) : Option (List Char) :=
  let path := cs.takeWhile isPathChar
  match cs.drop path.length with
  | [] | '#' :: _ => some path
  | '?' :: rest =>
    match rest.dropWhile isQueryChar with
    | [] | '#' :: _ => some path
    | _ => none
  | _ => none

/-! ## Servers -/

/-- What a scan of a server's name has come across: colons, brackets and a percent sign since the last sign
that ends a part, and whether that was the last character. -/
structure Scan where
  colons : Nat := 0
  isOpened : Bool := false
  isClosed : Bool := false
  hasPercent : Bool := false
  endsAtSign : Bool := false

namespace Scan

/-- Whether a character is one of those that stand for themselves in the name of a server. -/
def isPlain (c : Char) : Bool :=
  c.isAlphanum || ['!', '$', '&', '\'', '(', ')', '*', '+', ',', '-', '.', ';', '=', '_', '~'].contains c

/-- Goes on by a character. -/
def step (s : Scan) (c : Char) : Option Scan :=
  let s := { s with endsAtSign := false }
  match c with
  | ':' => if s.colons < 8 then some { s with colons := s.colons + 1 } else none
  | '[' => if s.hasPercent || s.isOpened then none else some { s with isOpened := true }
  | ']' =>
    if !s.isOpened || s.isClosed then none
    else some { s with isClosed := true, colons := 0, hasPercent := false }
  | '@' => some { s with colons := 0, hasPercent := false, endsAtSign := true }
  | '%' => some { s with hasPercent := true }
  | c => if isPlain c then some s else none

/-- Whether a name may end here. -/
def mayEnd (s : Scan) : Bool :=
  s.isOpened == s.isClosed && s.colons ≤ 1 && !s.endsAtSign && !s.hasPercent

end Scan

/-- The name of a server that a text starts with, and what follows it. -/
def server? (cs : List Char) : Option (List Char × List Char) :=
  let name := cs.takeWhile fun c => c ≠ '/' && c ≠ '?' && c ≠ '#'
  match name.foldlM Scan.step {} with
  | some s => if s.mayEnd then some (name, cs.drop name.length) else none
  | none => none

/-- The longest scheme that is known. -/
def schemeLimit : Nat := 64

/-- Whether a character may stand in a scheme. -/
def isSchemeChar (c : Char) : Bool := c.isAlphanum || ['+', '-', '.', '~'].contains c

/-- A text without the scheme that it starts with, if it does. -/
def beyondScheme? (cs : List Char) : Option (List Char) :=
  match cs.dropWhile isSchemeChar with
  | ':' :: '/' :: '/' :: rest => some rest
  | _ => none

/-- The path of a target that starts with no slash. Where a server is named with its scheme a path may follow;
without one its name is all there is. -/
def elsewhere? (cs : List Char) : Option (List Char) :=
  match beyondScheme? cs with
  | some rest =>
    if schemeLimit < cs.length - rest.length - 3 then none
    else match server? rest with
      | some ([], _) | none => none
      | some (_, after) => path? after
  | none =>
    match server? cs with
    | some (_ :: _, []) => some []
    | _ => none

end Target

/-- The path of a target. -/
def targetPath (target : String) : Except TargetError String :=
  let path? := match target.toList with
    | '/' :: cs => Target.path? ('/' :: cs)
    | ['*'] => some ['*']
    | cs => Target.elsewhere? cs
  if Target.limit < target.utf8ByteSize then .error .tooLong
  else match path? with
    | some path => .ok (String.ofList path)
    | none => .error .malformed

end TrafficShaping
