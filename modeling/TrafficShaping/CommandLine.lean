import TrafficShaping.Metrics.Influx
import TrafficShaping.Shaping.Options
import TrafficShaping.SocketAddress

/-!
# The command line

Every setting has a flag and an environment variable. A flag counts before the variable, the variable before
the default, and a variable that is not needed is not even read. A flag takes its value from the same word,
after an equals sign, or from the next word, unless that one looks like a flag.

Words are taken in order. A value that came as a word of its own is looked at when the next flag comes, or
at the end, so a word that is not known is reported before a bad value right in front of it. Otherwise the
first fault counts, and a request for help or the version counts as one.
-/

namespace TrafficShaping

inductive Setting where
  | socketPath
  | listen
  | interface
  | program
  | influxUrl
  | influxDatabase
  | metricsTimeout
  | logLevel
deriving DecidableEq

namespace Setting

/-- Every setting, in the order in which variables are read. -/
def all : List Setting :=
  [.socketPath, .listen, .interface, .program, .influxUrl, .influxDatabase, .metricsTimeout, .logLevel]

def flagName : Setting → String
  | .socketPath => "socket-path"
  | .listen => "listen"
  | .interface => "interface"
  | .program => "tc-binary"
  | .influxUrl => "influx-url"
  | .influxDatabase => "influx-db"
  | .metricsTimeout => "metrics-timeout-ms"
  | .logLevel => "log-level"

def variableName : Setting → String
  | .socketPath => "NETCTL_SOCKET"
  | .listen => "NETCTL_LISTEN"
  | .interface => "NETCTL_INTERFACE"
  | .program => "NETCTL_TC_BINARY"
  | .influxUrl => "NETCTL_INFLUX_URL"
  | .influxDatabase => "NETCTL_INFLUX_DB"
  | .metricsTimeout => "NETCTL_METRICS_TIMEOUT_MS"
  | .logLevel => "NETCTL_LOG_LEVEL"

def ofFlag? (name : String) : Option Setting := all.find? (·.flagName == name)

end Setting

/-- What a program that controls traffic is set to. -/
structure Settings where
  socketPath : String := "/var/run/scope/plugins/network-control/network-control.sock"
  listen : Option SocketAddress := none
  interface : String := "eth0"
  program : String := "tc"
  influxUrl : Option String := none
  influxDatabase : String := "ican"
  metricsTimeout : Nat := 500
  logLevel : String := "info"
deriving DecidableEq

def Settings.shaper (s : Settings) : ShaperOptions :=
  { interface := s.interface, program := s.program }

/-- The options of the database, which is asked only if its address is set. -/
def Settings.influx? (s : Settings) : Option Metrics.InfluxOptions :=
  s.influxUrl.map fun url => { url, database := s.influxDatabase }

inductive UsageError where
  | helpWanted
  | versionWanted
  | unknown (word : String)
  | missingValue (s : Setting)
  | emptyValue (s : Setting)
  | unreadable (s : Setting) (value : String)
  | repeated (s : Setting)
  | unneededValue (word : String)
deriving DecidableEq

/-- A number of 64 bits, which may have a plus sign in front. -/
def milliseconds? (text : String) : Option Nat :=
  let digits := match text.toList with
    | '+' :: cs => cs
    | cs => cs
  (Number.natural? digits).filter (· < Nat.pow 2 64)

/-- Settings with one of them set to a value. -/
def Settings.set (s : Settings) (name : Setting) (value : String) : Except UsageError Settings :=
  match name with
  | .socketPath =>
    if value = "" then .error (.emptyValue name) else .ok { s with socketPath := value }
  | .listen =>
    match SocketAddress.read? value with
    | some a => .ok { s with listen := some a }
    | none => .error (.unreadable name value)
  | .interface => .ok { s with interface := value }
  | .program => .ok { s with program := value }
  | .influxUrl => .ok { s with influxUrl := some value }
  | .influxDatabase => .ok { s with influxDatabase := value }
  | .metricsTimeout =>
    match milliseconds? value with
    | some n => .ok { s with metricsTimeout := n }
    | none => .error (.unreadable name value)
  | .logLevel => .ok { s with logLevel := value }

namespace CommandLine

/-- What a word is when it is not a value. -/
inductive Word where
  | long (name : String) (value : Option String)
  | short (first : Char)
  | plain

/-- Tells words apart by the dashes in front; a dash alone is not a flag. -/
def Word.of (word : String) : Word :=
  match word.toList with
  | '-' :: '-' :: cs =>
    let name := cs.takeWhile (· ≠ '=')
    .long (String.ofList name) ((cs.drop name.length).tail?.map String.ofList)
  | '-' :: c :: _ => .short c
  | _ => .plain

/-- A command line that has been read in part: the settings, which of them were given, and the last flag
with its value, if the value was a word of its own or is still to come. -/
structure Progress where
  settings : Settings := {}
  given : List Setting := []
  pending : Option (Setting × Option String) := none

namespace Progress

/-- Takes a value for a setting, which may be given once. -/
def give (p : Progress) (s : Setting) (value : String) : Except UsageError Progress :=
  if s ∈ p.given then .error (.repeated s)
  else (p.settings.set s value).map fun settings => ⟨settings, s :: p.given, none⟩

/-- Takes the value that is pending. -/
def settle (p : Progress) : Except UsageError Progress :=
  match p.pending with
  | none => .ok p
  | some (s, none) => .error (.missingValue s)
  | some (s, some value) => p.give s value

/-- Answers a request for the help or the version, once everything before it is in order. -/
def stop (p : Progress) (wanted : UsageError) : Except UsageError Progress :=
  p.settle.bind fun _ => .error wanted

/-- Takes a word before the separator. -/
def take (p : Progress) (word : String) : Except UsageError Progress :=
  match Word.of word with
  | .long name value =>
    match Setting.ofFlag? name, value with
    | some s, some value => p.settle.bind (·.give s value)
    | some s, none => p.settle.map fun p => { p with pending := some (s, none) }
    | none, some _ =>
      .error (if name = "help" ∨ name = "version" then .unneededValue word else .unknown word)
    | none, none =>
      if name = "help" then p.stop .helpWanted
      else if name = "version" then p.stop .versionWanted
      else .error (.unknown word)
  | .short 'h' => p.stop .helpWanted
  | .short 'V' => p.stop .versionWanted
  | .short _ => .error (.unknown word)
  | .plain =>
    match p.pending with
    | some (s, none) => .ok { p with pending := some (s, some word) }
    | _ => .error (.unknown word)

/-- Takes words in order. Nothing may follow the separator. -/
def takeAll (p : Progress) : List String → Except UsageError Progress
  | [] => p.settle
  | "--" :: rest =>
    match rest with
    | [] => p.settle
    | word :: _ => .error (.unknown word)
  | word :: rest => (p.take word).bind (·.takeAll rest)

/-- Sets from the environment what was not given. -/
def fill (p : Progress) (environment : String → Option String) : Except UsageError Settings :=
  Setting.all.foldlM (fun settings s =>
    if s ∈ p.given then .ok settings
    else match environment s.variableName with
      | some value => settings.set s value
      | none => .ok settings) p.settings

end Progress

/-- The settings that the words of a command line and an environment make. -/
def read (words : List String) (environment : String → Option String) : Except UsageError Settings :=
  (Progress.takeAll {} words).bind (·.fill environment)

end CommandLine

end TrafficShaping
