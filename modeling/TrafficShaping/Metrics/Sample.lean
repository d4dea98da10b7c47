import TrafficShaping.Container
import TrafficShaping.Dict
import TrafficShaping.Shaping.Param

/-!
# Samples

A metrics source may know, for a container, the peer that it talks to and measurements standing for latency
and packet loss. Enriching a report asks the source about each of a list of containers. It is best effort:
a container whose query fails, or gets no answer in time, has no sample, and no query affects another's.

A source is given by what it answers about a container. An informant is asked in the world as it is, which
every query may change, so that with informants it can be told who was asked about, and how often. The
containers are asked about one after the other; that the queries overlap in time is left out, and with it
what a query has to do with the time it is made at.
-/

namespace TrafficShaping

/-- Measurements of a container, with the name of the peer that they refer to. -/
structure Sample where
  label : Param := .unset
  latency : Param := .unset
  packetLoss : Param := .unset
deriving DecidableEq

instance : Inhabited Sample := ⟨{}⟩

inductive MetricsError where
  | http
  | unavailable (text : String)
  | schema (text : String)
deriving DecidableEq

/-- What the error says; a transport error has no wording of its own. -/
def MetricsError.message? : MetricsError → Option String
  | .http => none
  | .unavailable text => some ("metrics source unavailable: " ++ text)
  | .schema text => some ("unexpected response: " ++ text)

/-- A metrics source, by what it answers about a container; none stands for no answer in time. -/
abbrev MetricsSource := Container → Option (Except MetricsError Sample)

/-- The source that knows nothing. -/
def MetricsSource.disabled : MetricsSource := fun _ => some (.ok {})

/-- The sample of a container, if its query succeeded in time. -/
def MetricsSource.sample? (source : MetricsSource) (c : Container) : Option Sample :=
  (source c).bind Except.toOption

/-- A metrics source that is asked in a world, over the state `σ` of that world. -/
abbrev Informant (σ : Type) := Container → σ → Option (Except MetricsError Sample) × σ

namespace Informant

variable {σ : Type}

/-- The samples of containers under their ids, and the world that the queries leave. -/
def samples (ask : Informant σ) : List Container → σ → List (String × Sample) × σ
  | [], w => ([], w)
  | c :: containers, w =>
    let (answer, w) := ask c w
    let (rest, w) := ask.samples containers w
    match answer with
    | some (.ok sample) => ((c.id, sample) :: rest, w)
    | some (.error _) | none => (rest, w)

/-- The samples of containers by id. -/
def enrich (ask : Informant σ) (containers : List Container) (w : σ) : Dict Sample × σ :=
  let (samples, w) := ask.samples containers w
  (.ofList samples, w)

end Informant

/-- The informant that answers like a source whatever the world, and leaves the world alone. -/
def MetricsSource.informant {σ : Type} (source : MetricsSource) : Informant σ := fun c w => (source c, w)

namespace MetricsSource

/-- The samples that a source has of containers, by id. -/
def enrich (source : MetricsSource) (containers : List Container) : Dict Sample :=
  (source.informant.enrich containers ()).1

theorem samples_informant {σ : Type} (source : MetricsSource) (containers : List Container) (w : σ) :
    source.informant.samples containers w =
      (containers.filterMap fun c => (source.sample? c).map fun s => (c.id, s), w) := by
  induction containers with
  | nil => rfl
  | cons c containers ih =>
    have hanswer : source.informant c w = (source c, w) := rfl
    simp only [Informant.samples, hanswer, ih, List.filterMap_cons, sample?]
    rcases source c with _ | e | s <;> rfl

theorem enrich_eq (source : MetricsSource) (containers : List Container) : source.enrich containers =
    .ofList (containers.filterMap fun c => (source.sample? c).map fun s => (c.id, s)) := by
  rw [enrich, Informant.enrich, samples_informant]

theorem enrich_informant {σ : Type} (source : MetricsSource) (containers : List Container) (w : σ) :
    source.informant.enrich containers w = (source.enrich containers, w) := by
  rw [Informant.enrich, samples_informant, enrich_eq]

end MetricsSource

end TrafficShaping
