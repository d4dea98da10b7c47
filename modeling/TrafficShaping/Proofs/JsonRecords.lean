import TrafficShaping.Report.Wire
import TrafficShaping.Proofs.DictLookup
import TrafficShaping.Proofs.JsonScalars
import TrafficShaping.Proofs.JsonText

/-!
# Records and dictionaries in JSON

What a writer leaves out a reader has to put back. Both sides of that are stated for a record as a list of
its fields, each with its value or none: writing keeps those that have one, reading finds all of them again,
and a field that was left out for having its default reads as that default.

`ReadsAs` is what is proved of a value and its JSON, `FieldReadsAs` the same of a field, which may be absent.
Records, lists and dictionaries pass from the one to the other, so that for each kind of record only its own
fields are left to name. A dictionary comes back because its keys are distinct: none of the members that are
written for it takes the place of another.
-/

namespace TrafficShaping.Json

open TrafficShaping.Number (Binary64)

variable {α β : Type}

/-- Whether a JSON value can be written and is read as this value. -/
structure ReadsAs (read : Json → Option α) (j : Json) (v : α) : Prop where
  writable : j.Writable
  eq : read j = some v

/-- Whether a field can be written, if it is there, and is read as this value. -/
structure FieldReadsAs (read : Option Json → Option α) (field : Option Json) (v : α) : Prop where
  writable : ∀ j ∈ field, j.Writable
  eq : read field = some v

/-! ## Strings, numbers and words -/

theorem ReadsAs.text (s : String) : ReadsAs string? (text s) s :=
  ⟨.string (Literal.writable_ofString s), Literal.decode?_ofString s⟩

theorem ReadsAs.bool (b : Bool) : ReadsAs bool? (.bool b) b := ⟨.bool b, rfl⟩

theorem ReadsAs.integer {low high i : Int} (hlow : low ≤ i) (hhigh : i ≤ high) :
    ReadsAs (integerBetween? low high) (integer i) i :=
  ⟨.number (writable_digits _ _ _ _), integerBetween?_integer hlow hhigh⟩

theorem ReadsAs.double {x : Binary64} (hx : (Number.ofDouble x).double? = some x) :
    ReadsAs double? (.number (.ofDouble x)) x :=
  ⟨.number (writable_ofDouble x), hx⟩

/-! ## Lists and dictionaries -/

theorem mapM_eq_some_map {read : α → Option β} {f : α → β} {l : List α}
    (h : ∀ a ∈ l, read a = some (f a)) : l.mapM read = some (l.map f) := by
  induction l with
  | nil => rfl
  | cons a l ih =>
      rw [List.mapM_cons, h a List.mem_cons_self, ih fun b hb => h b (List.mem_cons_of_mem a hb)]
      rfl

theorem ReadsAs.list {write : α → Json} {read : Json → Option α} {vs : List α}
    (h : ∀ v ∈ vs, ReadsAs read (write v) v) : ReadsAs (list? read) (.array (vs.map write)) vs := by
  refine ⟨.array fun j hj => ?_, ?_⟩
  · obtain ⟨v, hv, rfl⟩ := List.mem_map.mp hj
    exact (h v hv).writable
  · show (vs.map write).mapM read = _
    rw [List.mapM_map]
    refine (mapM_eq_some_map (f := id) fun v hv => (h v hv).eq).trans ?_
    rw [List.map_id]

theorem writable_ofFields {fields : List (String × Json)} (h : ∀ f ∈ fields, f.2.Writable) :
    (ofFields fields).Writable := by
  refine .object (fun m hm => ?_) fun m hm => ?_
  · obtain ⟨f, _, rfl⟩ := List.mem_map.mp hm
    exact Literal.writable_ofString f.1
  · obtain ⟨f, hf, rfl⟩ := List.mem_map.mp hm
    exact h f hf

theorem members?_ofFields (fields : List (String × Json)) : (ofFields fields).members? = some fields := by
  show (fields.map fun f => (Literal.ofString f.1, f.2)).mapM _ = _
  rw [List.mapM_map, mapM_eq_some_map (f := id) fun f _ => ?_, List.map_id]
  show (Literal.ofString f.1).decode?.map _ = _
  rw [Literal.decode?_ofString]
  rfl

theorem ofList_entries (d : Dict α) : Dict.ofList d.entries = d := by
  refine Dict.ext_get? fun key => Option.ext fun v => ?_
  rw [Dict.get?_ofList_eq_some_iff d.nodup_keys, Dict.mem_entries_iff]

/-- A dictionary whose values read back, or come back as a function of them. -/
theorem ReadsAs.mapDict {write : α → Json} {read : Json → Option β} {f : α → β} {d : Dict α}
    (h : ∀ v ∈ d.values, ReadsAs read (write v) (f v)) :
    ReadsAs (dict? read) (ofDict write d) (d.map f) := by
  have hentry : ∀ e ∈ d.entries, ReadsAs read (write e.2) (f e.2) :=
    fun e he => h e.2 (List.mem_map.mpr ⟨e, he, rfl⟩)
  refine ⟨writable_ofFields fun m hm => ?_, ?_⟩
  · obtain ⟨e, he, rfl⟩ := List.mem_map.mp hm
    exact (hentry e he).writable
  · rw [dict?, ofDict, members?_ofFields, Option.bind_some, List.mapM_map,
      mapM_eq_some_map (f := fun e => (e.1, f e.2)) fun e he => ?_, Option.map_some]
    · exact congrArg some (ofList_entries (d.map f))
    · show (read (write e.2)).map _ = _
      rw [(hentry e he).eq]
      rfl

theorem ReadsAs.dict {write : α → Json} {read : Json → Option α} {d : Dict α}
    (h : ∀ v ∈ d.values, ReadsAs read (write v) v) : ReadsAs (dict? read) (ofDict write d) d := by
  have hid : d.map id = d := Dict.ext_get? fun key => by rw [Dict.get?_map, Option.map_id]; rfl
  have hmap := ReadsAs.mapDict (f := id) h
  rwa [hid] at hmap

/-! ## Fields -/

/-- The value of a field that is left out when it has its default. -/
def given (isDefault : Bool) (value : Json) : Option Json := if isDefault then none else some value

theorem ReadsAs.required {read : Json → Option α} {j : Json} {v : α} (h : ReadsAs read j v) :
    FieldReadsAs (required read) (some j) v :=
  ⟨fun _ hi => Option.some.inj hi ▸ h.writable, h.eq⟩

/-- A field that may be absent, but never is. -/
theorem ReadsAs.withDefault {read : Json → Option α} {j : Json} {v : α} (fallback : α)
    (h : ReadsAs read j v) : FieldReadsAs (withDefault fallback read) (some j) v :=
  ⟨fun _ hi => Option.some.inj hi ▸ h.writable, h.eq⟩

theorem FieldReadsAs.withDefault {read : Json → Option α} {fallback v : α} {isDefault : Bool} {j : Json}
    (hdefault : isDefault = true → v = fallback) (hread : isDefault = false → ReadsAs read j v) :
    FieldReadsAs (Json.withDefault fallback read) (given isDefault j) v := by
  cases isDefault with
  | true => exact ⟨nofun, congrArg some (hdefault rfl).symm⟩
  | false => exact ⟨fun _ hi => Option.some.inj hi ▸ (hread rfl).writable, (hread rfl).eq⟩

/-- A field that has its default when it is the empty text. -/
theorem FieldReadsAs.text (s : String) :
    FieldReadsAs (Json.withDefault "" string?) (given (decide (s = "")) (.text s)) s :=
  .withDefault of_decide_eq_true fun _ => .text s

/-- A field that has its default when it is the empty dictionary. -/
theorem FieldReadsAs.dict {read : Json → Option α} {d : Dict α} {j : Json}
    (h : ReadsAs (dict? read) j d) :
    FieldReadsAs (Json.withDefault ∅ (dict? read)) (given d.isEmpty j) d := by
  refine .withDefault (fun hempty => ?_) fun _ => h
  obtain ⟨entries, _⟩ := d
  obtain rfl := List.isEmpty_iff.mp hempty
  rfl

/-! ## Records -/

/-- The fields that have a value. -/
def present (fields : List (String × Option Json)) : List (String × Json) :=
  fields.filterMap fun f => f.2.map (f.1, ·)

theorem present_nil : present [] = [] := rfl

theorem present_some (name : String) (value : Json) (fields : List (String × Option Json)) :
    present ((name, some value) :: fields) = (name, value) :: present fields := rfl

theorem present_given (isDefault : Bool) (name : String) (value : Json)
    (fields : List (String × Option Json)) : present ((name, given isDefault value) :: fields) =
      Report.omitIf isDefault name value ++ present fields := by
  cases isDefault <;> rfl

theorem mem_present {fields : List (String × Option Json)} {f : String × Json} :
    f ∈ present fields ↔ (f.1, some f.2) ∈ fields := by
  rw [present, List.mem_filterMap]
  constructor
  · rintro ⟨⟨name, value⟩, hmem, heq⟩
    obtain ⟨j, rfl, rfl⟩ := Option.map_eq_some_iff.mp heq
    exact hmem
  · intro hmem
    exact ⟨_, hmem, rfl⟩

theorem filter_present {fields : List (String × Option Json)} (hnames : (fields.map (·.1)).Nodup)
    {f : String × Option Json} (hf : f ∈ fields) :
    (present fields).filter (·.1 == f.1) = (f.2.map (f.1, ·)).toList := by
  induction fields with
  | nil => cases hf
  | cons g fields ih =>
      obtain ⟨hnot, hrest⟩ := List.nodup_cons.mp hnames
      have hcons : present (g :: fields) = (g.2.map (g.1, ·)).toList ++ present fields := by
        obtain ⟨name, value⟩ := g
        cases value <;> rfl
      rw [hcons, List.filter_append]
      rcases List.mem_cons.mp hf with rfl | hmem
      · have hothers : (present fields).filter (·.1 == f.1) = [] := by
          refine List.filter_eq_nil_iff.mpr fun e he => ?_
          intro heq
          exact hnot (List.mem_map.mpr ⟨_, mem_present.mp he, eq_of_beq heq⟩)
        rw [hothers, List.append_nil]
        cases f.2 with
        | none => rfl
        | some j => exact List.filter_cons_of_pos (beq_self_eq_true f.1)
      · have hne : g.1 ≠ f.1 := fun heq => hnot (List.mem_map.mpr ⟨f, hmem, heq.symm⟩)
        have hfirst : ((g.2.map (g.1, ·)).toList).filter (·.1 == f.1) = [] := by
          cases g.2 with
          | none => rfl
          | some j => exact List.filter_cons_of_neg (by simpa using hne)
        rw [hfirst, List.nil_append, ih hrest hmem]

theorem member?_present {fields : List (String × Option Json)} (hnames : (fields.map (·.1)).Nodup)
    {f : String × Option Json} (hf : f ∈ fields) : member? (present fields) f.1 = some f.2 := by
  rw [member?, filter_present hnames hf]
  cases f.2 <;> rfl

/-- Reading a record finds every field as it was written or left out. -/
theorem fields?_present {names : List String} (hnodup : names.Nodup) {fields : List (String × Option Json)}
    (hnames : fields.map (·.1) = names) :
    (ofFields (present fields)).fields? names = some (fields.map (·.2)) := by
  subst hnames
  show (ofFields (present fields)).members?.bind _ = _
  rw [members?_ofFields, Option.bind_some, List.mapM_map]
  exact mapM_eq_some_map fun f hf => member?_present hnodup hf

/-- Whether what is there of these fields can be written. -/
def FieldsWritable (fields : List (String × Option Json)) : Prop := ∀ f ∈ fields, ∀ j ∈ f.2, j.Writable

theorem fieldsWritable_nil : FieldsWritable [] := nofun

theorem FieldReadsAs.cons {read : Option Json → Option α} {field : Option Json} {v : α} {name : String}
    {fields : List (String × Option Json)} (h : FieldReadsAs read field v)
    (hfields : FieldsWritable fields) : FieldsWritable ((name, field) :: fields) :=
  List.forall_mem_cons.mpr ⟨h.writable, hfields⟩

/-- A record reads back if its reader makes the value from the fields as they were written. -/
theorem ReadsAs.record {read : Json → Option α} {v : α} (names : List String) (hnodup : names.Nodup)
    {fields : List (String × Option Json)} (hnames : fields.map (·.1) = names)
    (hwritable : FieldsWritable fields)
    (hread : ∀ j : Json, j.fields? names = some (fields.map (·.2)) → read j = some v) :
    ReadsAs read (ofFields (present fields)) v :=
  ⟨writable_ofFields fun f hf => hwritable _ (mem_present.mp hf) f.2 rfl,
    hread _ (fields?_present hnodup hnames)⟩

end TrafficShaping.Json
