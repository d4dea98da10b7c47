import TrafficShaping.ControlRequest
import TrafficShaping.Proofs.JsonDecoding
import TrafficShaping.Proofs.JsonReading

/-!
# Control requests in any layout

What is read of a request is what stands under three keys. Neither the order of the members matters nor what
stands between them, and neither white space nor the way in which strings are escaped. The node and the control
have to be there once, and the application may be left out; what is there of the three has to be a string.

A member is found by the name that its key stands for, so two spellings of one key are one key twice. Values are
looked at under the three keys only. The others are held to the syntax, and may be strings that are no text and
numbers of any size. What is no text of an object or an array is not read at all.
-/

namespace TrafficShaping

namespace Json

/-- What the members with this key hold, in their order. -/
def valuesUnder (key : String) (members : List (String × Json)) : List Json :=
  (members.filter (·.1 == key)).map (·.2)

/-- Whether these are the names that the keys of members stand for, with the values under them. -/
def Named (members : List (Literal × Json)) (named : List (String × Json)) : Prop :=
  List.Forall₂ (fun m n => m.1.StandsFor n.1 ∧ m.2 = n.2) members named

/-- Whether a key is there once and a way to write this text stands under it. -/
def HoldsText (key : String) (members : List (String × Json)) (s : String) : Prop :=
  ∃ l : Literal, valuesUnder key members = [.string l] ∧ l.StandsFor s

theorem fields?_object (names : List String) (members : List (Literal × Json)) :
    (Json.object members).fields? names =
      (members? (.object members)).bind fun ms => names.mapM (member? ms) := rfl

theorem member?_eq_some_iff {members : List (String × Json)} {key : String} {field : Option Json} :
    member? members key = some field ↔ valuesUnder key members = field.toList := by
  rw [member?, valuesUnder]
  cases hfilter : members.filter (·.1 == key) with
  | nil => cases field <;> simp
  | cons m ms =>
      cases ms with
      | nil => cases field <;> simp
      | cons m' ms => cases field <;> simp

/-! ## Strings that were read -/

theorem Token.Laid.exists_spelled {ts : List Token} {text : List UInt8} (h : Laid ts text) :
    ∀ t ∈ ts, ∃ bs, t.Spelled bs := by
  induction h with
  | nil _ => exact List.forall_mem_nil _
  | cons _ hspelling _ ih => exact List.forall_mem_cons.mpr ⟨⟨_, hspelling⟩, ih⟩

theorem mem_memberTokens {members : List (Literal × Json)} {m : Literal × Json} (hm : m ∈ members)
    {t : Token} (ht : t = .string m.1 ∨ t ∈ tokens m.2) : t ∈ memberTokens members := by
  have hmember : t ∈ .string m.1 :: .colon :: tokens m.2 := by
    rcases ht with rfl | ht
    · exact List.mem_cons_self
    · exact List.mem_cons_of_mem _ (List.mem_cons_of_mem _ ht)
  induction members with
  | nil => cases hm
  | cons n ms ih =>
      cases ms with
      | nil =>
          obtain rfl := List.mem_singleton.mp hm
          exact hmember
      | cons n' ms =>
          rw [memberTokens_cons_cons]
          rcases List.mem_cons.mp hm with rfl | hm
          · exact List.mem_append_left _ hmember
          · exact List.mem_append_right _ (List.mem_cons_of_mem _ (ih hm))

/-- A key in an object that was read has a spelling, and so has a string under it. -/
theorem exists_spelled_of_mem {members : List (Literal × Json)} {text : List UInt8}
    (htext : (Json.object members).Laid text) {m : Literal × Json} (hm : m ∈ members) {l : Literal}
    (hl : l = m.1 ∨ .string l = m.2) : ∃ bs, l.Spelled bs := by
  have hmember : Token.string l ∈ memberTokens members := by
    refine mem_memberTokens hm (hl.imp (congrArg Token.string) fun hvalue => ?_)
    rw [← hvalue]
    exact List.mem_singleton.mpr rfl
  have htoken : Token.string l ∈ tokens (.object members) :=
    List.mem_cons_of_mem _ (List.mem_append_left _ hmember)
  obtain ⟨bs, hbs⟩ := htext.exists_spelled _ htoken
  cases hbs with
  | string hl => exact ⟨_, hl⟩

theorem members?_eq_some_iff_of_spelled {members : List (Literal × Json)}
    (hkeys : ∀ m ∈ members, ∃ bs, m.1.Spelled bs) {named : List (String × Json)} :
    members? (.object members) = some named ↔ Named members named := by
  show members.mapM (fun m => m.1.decode?.map fun k => (k, m.2)) = _ ↔ _
  induction members generalizing named with
  | nil => exact ⟨fun h => Option.some.inj h ▸ .nil, fun h => by cases h; rfl⟩
  | cons m members ih =>
      obtain ⟨⟨bs, hkey⟩, hkeys⟩ := List.forall_mem_cons.mp hkeys
      have ih := @ih hkeys
      rw [List.mapM_cons]
      simp only [Option.bind_eq_bind, Option.bind_eq_some_iff, Option.map_eq_some_iff, Option.pure_def,
        Option.some.injEq]
      constructor
      · rintro ⟨n, ⟨name, hname, rfl⟩, others, hothers, rfl⟩
        exact .cons ⟨(Literal.decode?_eq_some_iff hkey).mp hname, rfl⟩ (ih.mp hothers)
      · rintro (_ | ⟨⟨hname, hvalue⟩, hothers⟩)
        exact ⟨_, ⟨_, Literal.decode?_of_standsFor hname, by rw [hvalue]⟩, _, ih.mpr hothers, rfl⟩

theorem members?_eq_some_iff {members : List (Literal × Json)} {text : List UInt8}
    (htext : (Json.object members).Laid text) {named : List (String × Json)} :
    members? (.object members) = some named ↔ Named members named :=
  members?_eq_some_iff_of_spelled fun _ hm => exists_spelled_of_mem htext hm (.inl rfl)

theorem Named.exists_mem {members : List (Literal × Json)} {named : List (String × Json)}
    (h : Named members named) {n : String × Json} (hn : n ∈ named) : ∃ key, (key, n.2) ∈ members := by
  induction h with
  | nil => cases hn
  | @cons m n' _ _ hm _ ih =>
      rcases List.mem_cons.mp hn with rfl | hn
      · exact ⟨m.1, by rw [← hm.2]; exact List.mem_cons_self⟩
      · obtain ⟨key, hkey⟩ := ih hn
        exact ⟨key, List.mem_cons_of_mem _ hkey⟩

theorem mem_of_valuesUnder {members : List (String × Json)} {key : String} {j : Json}
    (h : j ∈ valuesUnder key members) : (key, j) ∈ members := by
  obtain ⟨m, hm, rfl⟩ := List.mem_map.mp h
  obtain ⟨hmem, hkey⟩ := List.mem_filter.mp hm
  rwa [← eq_of_beq hkey]

/-! ## Fields -/

section

variable {members : List (Literal × Json)} {named : List (String × Json)} {text : List UInt8}
  (htext : (Json.object members).Laid text) (hnamed : Named members named)

include htext hnamed

theorem string?_eq_some_iff {key : String} {j : Json} (hj : valuesUnder key named = [j]) {s : String} :
    string? j = some s ↔ HoldsText key named s := by
  have hcases : HoldsText key named s ↔ ∃ l : Literal, j = .string l ∧ l.StandsFor s := by
    simp only [HoldsText, hj, List.cons.injEq, and_true]
  rw [hcases]
  cases j with
  | string l =>
      have hmem : (key, Json.string l) ∈ named := mem_of_valuesUnder (by rw [hj]; exact List.mem_cons_self)
      obtain ⟨k, hk⟩ := hnamed.exists_mem hmem
      obtain ⟨bs, hbs⟩ := exists_spelled_of_mem htext hk (.inr rfl)
      have hdecode := Literal.decode?_eq_some_iff hbs (s := s)
      exact hdecode.trans ⟨fun h => ⟨l, rfl, h⟩, fun ⟨_, heq, h⟩ => Json.string.inj heq ▸ h⟩
  | _ => exact ⟨nofun, fun ⟨_, heq, _⟩ => nomatch heq⟩

theorem required_eq_some_iff {key s : String} :
    (∃ field, member? named key = some field ∧ required string? field = some s) ↔ HoldsText key named s := by
  constructor
  · rintro ⟨field, hfield, hread⟩
    obtain ⟨j, rfl, hread⟩ := Option.bind_eq_some_iff.mp hread
    exact (string?_eq_some_iff htext hnamed (member?_eq_some_iff.mp hfield)).mp hread
  · intro h
    obtain ⟨l, hl, _⟩ := id h
    exact ⟨some (.string l), member?_eq_some_iff.mpr hl, (string?_eq_some_iff htext hnamed hl).mpr h⟩

theorem withDefault_eq_some_iff {key fallback s : String} :
    (∃ field, member? named key = some field ∧ withDefault fallback string? field = some s) ↔
      HoldsText key named s ∨ valuesUnder key named = [] ∧ s = fallback := by
  constructor
  · rintro ⟨field, hfield, hread⟩
    have hvalues := member?_eq_some_iff.mp hfield
    cases field with
    | none => exact .inr ⟨hvalues, (Option.some.inj hread).symm⟩
    | some j => exact .inl ((string?_eq_some_iff htext hnamed hvalues).mp hread)
  · rintro (h | ⟨hvalues, rfl⟩)
    · obtain ⟨l, hl, _⟩ := id h
      exact ⟨some (.string l), member?_eq_some_iff.mpr hl, (string?_eq_some_iff htext hnamed hl).mpr h⟩
    · exact ⟨none, member?_eq_some_iff.mpr hvalues, rfl⟩

end

end Json

namespace ControlRequest

open Json (HoldsText Named valuesUnder member? members? required withDefault string?)

/-- What a request is read from: what there is for each of its three fields. -/
theorem ofJson?_object_eq_some_iff {members : List (Json.Literal × Json)} {named : List (String × Json)}
    (h : members? (.object members) = some named) {r : ControlRequest} :
    ofJson? (.object members) = some r ↔
      (∃ field, member? named "AppID" = some field ∧ withDefault "" string? field = some r.appId) ∧
      (∃ field, member? named "NodeID" = some field ∧ required string? field = some r.nodeId) ∧
      ∃ field, member? named "Control" = some field ∧ required string? field = some r.control := by
  rw [ofJson?, Json.fields?_object, h, Option.bind_some]
  simp only [List.mapM_cons, List.mapM_nil, bind_assoc, pure_bind]
  simp only [Option.bind_eq_bind, Option.bind_eq_some_iff, Option.pure_def, Option.some.injEq]
  constructor
  · rintro ⟨appId, happId, nodeId, hnodeId, control, hcontrol, a, ha, n, hn, c, hc, rfl⟩
    exact ⟨⟨appId, happId, ha⟩, ⟨nodeId, hnodeId, hn⟩, control, hcontrol, hc⟩
  · rintro ⟨⟨appId, happId, ha⟩, ⟨nodeId, hnodeId, hn⟩, control, hcontrol, hc⟩
    exact ⟨appId, happId, nodeId, hnodeId, control, hcontrol, _, ha, _, hn, _, hc, rfl⟩

/-- Only a text of an object or of an array is read as a request. -/
theorem exists_laid_of_read? {body : List UInt8} {r : ControlRequest} (h : read? body = some r) :
    (∃ members, (Json.object members).Laid body) ∨ ∃ items, (Json.array items).Laid body := by
  obtain ⟨j, hj, hread⟩ := Option.bind_eq_some_iff.mp h
  have hlaid := Json.parse?_eq_some_iff.mp hj
  cases j with
  | object members => exact .inl ⟨members, hlaid⟩
  | array items => exact .inr ⟨items, hlaid⟩
  | _ => cases hread

/-- A key that is no text makes a request unreadable, also where nobody reads what stands under it. -/
theorem read?_eq_none {members : List (Json.Literal × Json)} {body : List UInt8}
    (hbody : (Json.object members).Laid body) (h : ∀ named, ¬Named members named) : read? body = none := by
  have hnone : members? (.object members) = none :=
    Option.eq_none_iff_forall_ne_some.mpr fun named hsome => h named ((Json.members?_eq_some_iff hbody).mp hsome)
  rw [read?, Json.parse?_of_laid hbody, Option.bind_some, ofJson?, Json.fields?_object, hnone]
  rfl

/-- A request is read from a text of an object exactly if the node and the control are there once and are strings,
and the application is not there or once and a string. It is read as what these strings stand for. -/
theorem read?_eq_some_iff {members : List (Json.Literal × Json)} {named : List (String × Json)}
    {body : List UInt8} (hbody : (Json.object members).Laid body) (hnamed : Named members named)
    (r : ControlRequest) : read? body = some r ↔
      HoldsText "NodeID" named r.nodeId ∧ HoldsText "Control" named r.control ∧
      (HoldsText "AppID" named r.appId ∨ valuesUnder "AppID" named = [] ∧ r.appId = "") := by
  rw [read?, Json.parse?_of_laid hbody, Option.bind_some,
    ofJson?_object_eq_some_iff ((Json.members?_eq_some_iff hbody).mpr hnamed),
    Json.withDefault_eq_some_iff hbody hnamed, Json.required_eq_some_iff hbody hnamed,
    Json.required_eq_some_iff hbody hnamed]
  exact ⟨fun ⟨happ, hnode, hcontrol⟩ => ⟨hnode, hcontrol, happ⟩,
    fun ⟨hnode, hcontrol, happ⟩ => ⟨happ, hnode, hcontrol⟩⟩

/-- White space, a key of which a part is escaped, and a member that nobody reads. -/
theorem read?_spaced_and_escaped : read? (Text.Utf8.encode
    "\x7b \"NodeID\" : \"n\", \"x\":[0], \"\\u0043ontrol\":\"c\"\x7d") = some ⟨"", "n", "c"⟩ := by
  let text (s : String) : Json.Literal := .ofString s
  let control : Json.Literal := [.unit 0x43] ++ text "ontrol"
  let unread : Json := .array [.number ⟨false, [0], [], none⟩]
  let members : List (Json.Literal × Json) :=
    [(text "NodeID", .string (text "n")), (text "x", unread), (control, .string (text "c"))]
  let named : List (String × Json) :=
    [("NodeID", .string (text "n")), ("x", unread), ("Control", .string (text "c"))]
  have hspelled (s : String) : (Json.Token.string (text s)).Spelled _ :=
    .string (Json.Literal.writable_ofString s).spelled
  have hcontrol : control.Spelled _ :=
    .cons (.unit (a := 0x30) (b := 0x30) (c := 0x34) (d := 0x33) rfl rfl rfl rfl)
      (Json.Literal.writable_ofString "ontrol").spelled
  have hzero : Json.Number.Spelled ⟨false, [0], [], none⟩ _ := .mk ⟨0, [], rfl, fun _ => rfl⟩ .missing
  have hnone : ∀ b ∈ ([] : List UInt8), b ∈ Json.Token.blanks := nofun
  have hspace : ∀ b ∈ ([0x20] : List UInt8), b ∈ Json.Token.blanks :=
    List.forall_mem_singleton.mpr (by decide)
  have hlaid := Json.Token.Laid.cons hnone .openBrace <| .cons hspace (hspelled "NodeID") <|
    .cons hspace .colon <| .cons hspace (hspelled "n") <| .cons hnone .comma <|
    .cons hspace (hspelled "x") <| .cons hnone .colon <| .cons hnone .openBracket <|
    .cons hnone (.number hzero) <| .cons hnone .closeBracket <| .cons hnone .comma <|
    .cons hspace (.string hcontrol) <| .cons hnone .colon <| .cons hnone (hspelled "c") <|
    .cons hnone .closeBrace <| .nil hnone
  have hbody : (Json.object members).Laid _ := hlaid
  have hkey : control.StandsFor "Control" :=
    .cons (.unit (c := 'C') (by decide)) (Json.Literal.standsFor_ofString "ontrol")
  have hnamed : Named members named :=
    .cons ⟨Json.Literal.standsFor_ofString "NodeID", rfl⟩
      (.cons ⟨Json.Literal.standsFor_ofString "x", rfl⟩ (.cons ⟨hkey, rfl⟩ .nil))
  have hvalue (s : String) := Json.Literal.standsFor_ofString s
  exact (read?_eq_some_iff hbody hnamed _).mpr
    ⟨⟨text "n", rfl, hvalue "n"⟩, ⟨text "c", rfl, hvalue "c"⟩, .inr ⟨rfl, rfl⟩⟩

end ControlRequest

end TrafficShaping
