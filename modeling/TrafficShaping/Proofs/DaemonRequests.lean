import TrafficShaping.Daemon.Client
import TrafficShaping.Proofs.PathNames
import TrafficShaping.Proofs.SyncOutcome

/-!
# What a server makes of a request

The id of a container is written into a path as it is. If it is a name, then the server finds it in the path, so
it is asked about that container, and the path of every other request leads elsewhere. Of other ids this cannot
be said: the id `.` is a place, and the path that it is written into is that of the list.

The answer to a request counts only if it is a success. A sync takes any other reply for a failure. So if the list
is refused, the store is what it was; if an inspection is, what was known about that container stays known.
-/

namespace TrafficShaping.Daemon

/-! ## Paths -/

namespace Request

/-- What the path of a request is made of. -/
def names : Request → List String
  | .list => ["containers", "json"]
  | .inspect id => ["containers", id, "json"]
  | .events _ => ["events"]

theorem names_ne_nil (r : Request) : r.names ≠ [] := by
  cases r <;> exact List.cons_ne_nil _ _

theorem reference_eq (r : Request) : r.reference = .ofText (Url.pathOf r.names) := by
  cases r with
  | list => rfl
  | inspect id =>
      have htext : "/containers/" ++ id ++ "/json" = Url.pathOf ["containers", id, "json"] := by
        simp [← String.toList_inj, Url.pathOf]
      exact congrArg Reference.ofText htext
  | events since => rfl

theorem isName_of_mem_names {r : Request} (h : ∀ id, r = .inspect id → Url.IsName id) :
    ∀ n ∈ r.names, Url.IsName n := by
  have hfixed : Url.IsName "containers" ∧ Url.IsName "json" ∧ Url.IsName "events" := by
    refine ⟨⟨?_, ?_, ?_⟩, ⟨?_, ?_, ?_⟩, ⟨?_, ?_, ?_⟩⟩ <;> simp
  cases r with
  | list => simp [names, hfixed]
  | inspect id => simp [names, hfixed, h id rfl]
  | events since => simp [names, hfixed]

/-- A server finds in the path of a request what it is made of, and nothing is asked in the reference. -/
theorem segments_path {r : Request} (h : ∀ id, r = .inspect id → Url.IsName id) :
    Url.segments r.path = r.names ∧ r.reference.query = none := by
  have hnames := isName_of_mem_names h
  rw [path, reference_eq]
  exact ⟨Url.segments_path_ofText r.names_ne_nil hnames, by rw [Url.ofText_pathOf r.names_ne_nil hnames]⟩

/-- Requests that are made of different names have different paths, and so have two inspections. -/
theorem path_eq_iff {r r' : Request} (h : ∀ id, r = .inspect id → Url.IsName id)
    (h' : ∀ id, r' = .inspect id → Url.IsName id) : r.path = r'.path ↔ r.names = r'.names := by
  constructor
  · intro heq
    rw [← (segments_path h).1, heq, (segments_path h').1]
  · intro heq
    rw [path, path, reference_eq, reference_eq, heq]

/-- An id that is a place leads to the list. -/
example : (inspect ".").path = list.path := by decide +kernel

end Request

/-! ## Replies -/

section

variable {σ : Type} {send : Request → σ → Option Reply × σ} {w : σ}

/-- Whether a reply does not come or is no success. -/
def Refused (reply : Option Reply) : Prop := ∀ r, reply = some r → isSuccess r = false

theorem Refused.bind_eq_none {reply : Option Reply} (h : Refused reply) {α : Type} (read? : Reply → Option α)
    (hread : ∀ r, isSuccess r = false → read? r = none) : reply.bind read? = none :=
  Option.bind_eq_none_iff.mpr fun r hr => hread r (h r hr)

/-- A sync whose list is refused changes nothing. -/
theorem sync_of_list_refused (h : Refused (send .list w).1) (s : Store) :
    (ofTransport send).sync s w = (.error .client, s, (send .list w).2) := by
  refine sync_of_list_eq_none ?_ s
  exact h.bind_eq_none readList? fun r hr => by rw [readList?, if_neg (by simp [hr])]

theorem inspect_of_refused {id : String} (h : Refused (send (.inspect id) w).1) :
    ((ofTransport send).inspect id w).1 = none :=
  h.bind_eq_none readInspection? fun r hr => by rw [readInspection?, if_neg (by simp [hr])]

end

/-- A server that answers a request the same way each time. -/
def steady (replies : Request → Option Reply) : Daemon Unit := ofTransport fun r w => (replies r, w)

theorem answers_steady (replies : Request → Option Reply) (ids : List String) :
    (steady replies).answers ids () = ids.map fun id => (id, (replies (.inspect id)).bind readInspection?) := by
  induction ids with
  | nil => rfl
  | cons id ids ih => exact congrArg _ ih

/-- What is known about a listed container stays known if its inspection is refused, as long as no other
inspection is answered with its id. -/
theorem lookup_sync_of_refused {replies : Request → Option Reply} {s : Store} (hs : s.Keyed)
    {ids : List (Option String)} (hlist : (replies .list).bind readList? = some ids)
    (hnodup : (ids.filterMap fun listed => listed).Nodup) {id : String} (hid : some id ∈ ids)
    (hother : ∀ k, k ≠ id → ∀ i ∈ (replies (.inspect k)).bind readInspection?, i.id ≠ some id)
    (hrefused : Refused (replies (.inspect id))) :
    ((steady replies).sync s ()).2.1.lookup id = s.lookup id := by
  have hlists : (steady replies).Lists () ((ids.filterMap fun listed => listed).map fun id =>
      (id, (replies (.inspect id)).bind readInspection?)) :=
    ⟨⟨ids, (), Prod.ext hlist rfl, answers_steady replies _⟩, by simpa [Function.comp_def] using hnodup⟩
  have hnone : (replies (.inspect id)).bind readInspection? = none :=
    @inspect_of_refused Unit (fun r w => (replies r, w)) () id hrefused
  have hmem : (id, (none : Option Inspection)) ∈ (ids.filterMap fun listed => listed).map fun id =>
      (id, (replies (.inspect id)).bind readInspection?) :=
    List.mem_map.mpr ⟨id, List.mem_filterMap.mpr ⟨some id, hid, rfl⟩, by rw [hnone]⟩
  rw [(hlists.sync_eq s).2, Store.lookup_settle_of_mem hs hlists.nodup ?_ hmem]
  · rfl
  · intro k i hk hne
    obtain ⟨_, -, heq⟩ := List.mem_map.mp hk
    obtain ⟨rfl, hi⟩ := Prod.mk.inj heq
    exact hother _ hne i hi

end TrafficShaping.Daemon
