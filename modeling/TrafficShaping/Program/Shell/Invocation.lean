import TrafficShaping.Program.Shell.Builtin

/-!
# How a shell is started

A shell is started with options, and then with a script, with a file to read one from, or with neither, in
which case it reads its input.
-/

namespace TrafficShaping.Program

namespace Shell

/-- How a shell is started: with a script as a word or from its input, or with a file. -/
structure Invocation where
  hasScript : Bool := false
  options : List (Bool × Char) := []
  /-- Options by their names; one without a name asks for a list of them. -/
  named : List (Bool × Option String) := []
  readsInput : Bool := false
  words : List String := []

/-- Reads the words that a shell is started with. -/
def Invocation.ofWords (v : Invocation) : List String → Invocation
  | [] => v
  | w :: ws =>
    match w.toList with
    | ['-'] | ['-', '-'] => { v with words := ws }
    | sign :: c :: cs =>
      if sign = '-' ∨ sign = '+' then
        let letters := c :: cs
        let v := { v with
          hasScript := v.hasScript || letters.contains 'c'
          readsInput := v.readsInput || letters.contains 's'
          options := v.options ++
            (letters.filter fun c => !"clos".contains c).map fun c => (sign == '-', c)
          named := v.named ++ (if letters.contains 'o' then [(sign == '-', ws.head?)] else []) }
        Invocation.ofWords v (if letters.contains 'o' then ws.tail else ws)
      else { v with words := w :: ws }
    | _ => { v with words := w :: ws }
termination_by ws => ws.length
decreasing_by
  split <;> simp only [List.length_tail, List.length_cons] <;> omega

/-- Sets a shell up, and returns the script that it runs. -/
def Invocation.begin (v : Invocation) : Run String := do
  modify fun st => { st with line := 0 }
  for (isOn, o) in v.options do Builtin.setOption isOn o
  for (isOn, name) in v.named do
    match name with
    | some name => Builtin.setNamedOption isOn name
    | none => do
      /- Nothing is set at this early time, and all options count as on. -/
      let st ← get
      Builtin.say (Builtin.settings { st with options := Builtin.optionNames.map (·.2) } isOn)
  let named (words : List String) : Run Unit := do
    if let name :: arguments := words then modify fun st => { st with name, arguments }
  let text ← match v.hasScript, v.words with
    | true, [] => fail "-c requires an argument"
    | true, text :: words => do
      named words
      pure text
    | false, words =>
      if v.readsInput ∨ words = [] then do
        modify fun st => { st with arguments := words }
        let text ← readable 0
        leave 0 ""
        pure text
      else do
        let st ← get
        let path := words.head?.getD ""
        match st.world.disk.find st.directory path with
        | .error _ => fail ("cannot open " ++ path ++ ": No such file")
        | .ok l => do
          named words
          match st.world.disk.read l Disk.enough with
          | .ok text => pure text
          | .error _ => pure ""
  modify fun st => { st with line := 1 }
  return text

/-- The parameters that a shell starts with: those that it is told of, and others that it gives their first
values unless it may be told of them. -/
def firstParameters (told : List (String × String)) (path : String) : List (String × Parameter) :=
  let own := ["IFS", "OPTIND", "PWD"]
  let standard := [("IFS", " \t\n"), ("OPTIND", "1"), ("PATH", Machine.searchPath), ("PS1", "# "), ("PS2", "> "),
    ("PS4", "+ "), ("PWD", path)]
  let told := told.filter fun p => !own.contains p.1
  told.map (fun p => (p.1, { value := some p.2, isExported := true })) ++
    (standard.filter fun p => (told.lookup p.1).isNone).map fun p =>
      (p.1, { value := some p.2, isExported := p.1 == "PWD" })

end Shell

end TrafficShaping.Program
