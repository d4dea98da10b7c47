import TrafficShaping.Metrics.Response
import Mathlib.Data.List.Find
import Mathlib.Data.List.Nodup
import Mathlib.Data.List.Perm.Basic
import Mathlib.Logic.Relation

/-!
# Samples are read by name

A response is made of lists within lists, and a database is free to order and to fill them as it likes. What a
sample is read from is named three times over: the first result, in there the series of a measurement, in its
first row the cell under a column. Nothing is told by a position but what is first.

So a response may be edited in many ways without a difference to its sample. Each edit below moves positions, of
series in a result or of columns and cells in a table, and the names move along with what they name. That has
to be checked where the two searches meet: the position that a column's name is found at is looked up in a row,
so what is done to the columns has to be done to the row at the same position, and a row that ends before that
position has nothing to show there, before the edit and after.
-/

namespace TrafficShaping.Metrics

/-! ## What is under a column -/

/-- The cell that a series has under a column in its first row, if any. A column stands where its name stands
first. -/
inductive Series.Holds (s : Series) (column : String) : Option Cell → Prop where
  | noRow (h : s.rows = []) : Holds s column none
  | noColumn (h : column ∉ s.columns) : Holds s column none
  | tooShort {before after : List String} {row : List Cell} {more : List (List Cell)}
      (columns : s.columns = before ++ column :: after) (first : column ∉ before)
      (rows : s.rows = row :: more) (short : row.length ≤ before.length) : Holds s column none
  | cell {before after : List String} {cells others : List Cell} {c : Cell} {more : List (List Cell)}
      (columns : s.columns = before ++ column :: after) (first : column ∉ before)
      (rows : s.rows = (cells ++ c :: others) :: more) (place : cells.length = before.length) :
      Holds s column (some c)

namespace Series

variable {s s' : Series} {column : String}

theorem findIdx?_columns {before after : List String} (columns : s.columns = before ++ column :: after)
    (first : column ∉ before) : s.columns.findIdx? (· == column) = some before.length := by
  have hbefore : before.findIdx? (· == column) = none :=
    List.findIdx?_eq_none_iff.mpr fun other hother => by
      rw [beq_eq_false_iff_ne]
      rintro rfl
      exact first hother
  rw [columns, List.findIdx?_append, hbefore, List.findIdx?_cons, beq_self_eq_true]
  simp

theorem Holds.first?_eq {o : Option Cell} (h : s.Holds column o) : s.first? column = o := by
  cases h with
  | noRow h => simp [first?, h]
  | noColumn h =>
      have hnone : s.columns.findIdx? (· == column) = none :=
        List.findIdx?_eq_none_iff.mpr fun other hother => by
          rw [beq_eq_false_iff_ne]
          rintro rfl
          exact h hother
      rw [first?, hnone]
      rfl
  | tooShort columns first rows short =>
      rw [first?, findIdx?_columns columns first, rows]
      exact List.getElem?_eq_none short
  | cell columns first rows place =>
      rw [first?, findIdx?_columns columns first, rows, ← place]
      simp

/-- Every column is in one of the four cases. -/
theorem exists_holds (s : Series) (column : String) : ∃ o, s.Holds column o := by
  cases hrows : s.rows with
  | nil => exact ⟨none, .noRow hrows⟩
  | cons row more =>
      by_cases hcolumn : column ∈ s.columns
      · obtain ⟨before, after, columns, first⟩ := List.eq_append_cons_of_mem hcolumn
        by_cases hlength : row.length ≤ before.length
        · exact ⟨none, .tooShort columns first hrows hlength⟩
        · have hlength := Nat.not_le.mp hlength
          have hrow : row.take before.length ++ row[before.length] :: row.drop (before.length + 1) = row := by
            rw [← List.drop_eq_getElem_cons hlength, List.take_append_drop]
          exact ⟨_, .cell columns first (hrow ▸ hrows) (List.length_take_of_le (Nat.le_of_lt hlength))⟩
      · exact ⟨none, .noColumn hcolumn⟩

theorem first?_eq_iff {o : Option Cell} : s.first? column = o ↔ s.Holds column o := by
  constructor
  · rintro rfl
    obtain ⟨o, ho⟩ := s.exists_holds column
    rwa [ho.first?_eq]
  · exact Holds.first?_eq

theorem first?_congr (h : ∀ o, s.Holds column o → s'.Holds column o) :
    s'.first? column = s.first? column :=
  (h _ (first?_eq_iff.mp rfl)).first?_eq

end Series

/-! ## Edits of a table -/

/-- The items at some positions of a list, in the order of the positions. -/
def pick {α : Type} (positions : List Nat) (items : List α) : List α := positions.filterMap (items[·]?)

theorem pick_append_cons {α : Type} {i : Nat} {items : List α} {a : α} (h : items[i]? = some a)
    (earlier later : List Nat) :
    pick (earlier ++ i :: later) items = pick earlier items ++ a :: pick later items := by
  rw [pick, List.filterMap_append, List.filterMap_cons_some h]
  rfl

theorem length_pick {α : Type} {positions : List Nat} {items : List α}
    (h : ∀ i ∈ positions, i < items.length) : (pick positions items).length = positions.length := by
  induction positions with
  | nil => rfl
  | cons i positions ih =>
      rw [List.forall_mem_cons] at h
      rw [pick, List.filterMap_cons_some (List.getElem?_eq_getElem h.1), List.length_cons, List.length_cons]
      exact congrArg (· + 1) (ih h.2)

theorem mem_pick {α : Type} {positions : List Nat} {items : List α} {a : α} :
    a ∈ pick positions items ↔ ∃ i ∈ positions, items[i]? = some a := List.mem_filterMap

namespace Series

/-- A series with its columns in another order, and the cells of every row with them. -/
def reordered (s : Series) (positions : List Nat) : Series :=
  { s with columns := pick positions s.columns, rows := s.rows.map (pick positions) }

/-- A series without the column at a position, and without the cell at that position in every row that has
one. -/
def without (s : Series) (i : Nat) : Series :=
  { s with columns := s.columns.eraseIdx i, rows := s.rows.map (·.eraseIdx i) }

/-- Edits of one table: a reordering of its columns with their cells, the removal of a column that nothing is
read from, and another rest after the first row. -/
inductive Edit : Series → Series → Prop where
  | reorder {s : Series} {positions : List Nat} (distinct : s.columns.Nodup)
      (full : ∀ row ∈ s.rows, row.length = s.columns.length)
      (order : positions.Perm (List.range s.columns.length)) : Edit s (s.reordered positions)
  | remove {s : Series} {i : Nat} {name : String} (column : s.columns[i]? = some name)
      (notPeer : name ≠ "dpod_name") (notValue : name ≠ "value") : Edit s (s.without i)
  | laterRows {s : Series} {row : List Cell} {more : List (List Cell)} (rows : s.rows = row :: more)
      (others : List (List Cell)) : Edit s { s with rows := row :: others }

variable {s s' : Series} {column : String}

theorem Holds.reordered {o : Option Cell} {positions : List Nat} (distinct : s.columns.Nodup)
    (full : ∀ row ∈ s.rows, row.length = s.columns.length)
    (order : positions.Perm (List.range s.columns.length)) (h : s.Holds column o) :
    (s.reordered positions).Holds column o := by
  have hpositions : ∀ i ∈ positions, i < s.columns.length := fun i hi =>
    List.mem_range.mp (order.mem_iff.mp hi)
  cases h with
  | noRow h => exact .noRow (by rw [Series.reordered, h]; rfl)
  | noColumn h =>
      refine .noColumn fun hmem => h ?_
      obtain ⟨i, -, hi⟩ := mem_pick.mp hmem
      exact List.mem_of_getElem? hi
  | @tooShort before after row more columns first rows short =>
      have hlength := full row (by rw [rows]; exact List.mem_cons_self)
      rw [columns] at hlength
      simp at hlength
      omega
  | @cell before after cells others c more columns first rows place =>
      have hrow := full _ (by rw [rows]; exact List.mem_cons_self)
      have hcolumn : s.columns[before.length]? = some column := by simp [columns]
      have hcell : (cells ++ c :: others)[before.length]? = some c := by simp [← place]
      -- The positions before that of the column are those of other columns, for it has one position only.
      obtain ⟨earlier, later, rfl⟩ := List.append_of_mem
        (order.mem_iff.mpr (List.mem_range.mpr (List.getElem?_eq_some_iff.mp hcolumn).1))
      have hearlier : ∀ i ∈ earlier, i < s.columns.length := fun i hi =>
        hpositions i (List.mem_append_left _ hi)
      have hfirst : column ∉ pick earlier s.columns := by
        intro hmem
        obtain ⟨i, hi, hname⟩ := mem_pick.mp hmem
        have hsame : i = before.length :=
          (List.getElem?_inj (hearlier i hi) distinct).mp (hname.trans hcolumn.symm)
        have hnodup := order.nodup_iff.mpr List.nodup_range
        exact (List.nodup_append.mp hnodup).2.2 i hi _ List.mem_cons_self hsame
      have hrows : (s.reordered (earlier ++ before.length :: later)).rows =
          (pick earlier (cells ++ c :: others) ++ c :: pick later (cells ++ c :: others)) ::
            more.map (pick (earlier ++ before.length :: later)) := by
        rw [Series.reordered, rows, List.map_cons, pick_append_cons hcell]
      refine .cell (pick_append_cons hcolumn earlier later) hfirst hrows ?_
      rw [length_pick hearlier, length_pick (hrow.symm ▸ hearlier)]

/-- What is taken out of a list elsewhere leaves an item with fewer items before it or with other items after. -/
theorem eraseIdx_append_cons {α : Type} (before after : List α) (a : α) {i : Nat} (h : i ≠ before.length) :
    ∃ rest, (before ++ a :: after).eraseIdx i = before.eraseIdx i ++ a :: rest := by
  rcases Nat.lt_or_ge i before.length with hlt | hge
  · exact ⟨after, List.eraseIdx_append_of_lt_length hlt _⟩
  · obtain ⟨j, hj⟩ : ∃ j, i - before.length = j + 1 := ⟨i - before.length - 1, by omega⟩
    refine ⟨after.eraseIdx j, ?_⟩
    rw [List.eraseIdx_append_of_length_le hge, List.eraseIdx_of_length_le hge, hj, List.eraseIdx_cons_succ]

theorem Holds.without {o : Option Cell} {i : Nat} {name : String} (hname : s.columns[i]? = some name)
    (hne : name ≠ column) (h : s.Holds column o) : (s.without i).Holds column o := by
  have hplace : ∀ {before after : List String}, s.columns = before ++ column :: after →
      i ≠ before.length := by
    rintro before after columns rfl
    simp [columns] at hname
    exact hne hname.symm
  cases h with
  | noRow h => exact .noRow (by rw [Series.without, h]; rfl)
  | noColumn h => exact .noColumn fun hmem => h (List.mem_of_mem_eraseIdx hmem)
  | @tooShort before after row more columns first rows short =>
      obtain ⟨after', hcolumns⟩ := eraseIdx_append_cons before after column (hplace columns)
      rw [← columns] at hcolumns
      have hrows : (s.without i).rows = row.eraseIdx i :: more.map (·.eraseIdx i) := by
        rw [Series.without, rows, List.map_cons]
      refine .tooShort hcolumns (fun hmem => first (List.mem_of_mem_eraseIdx hmem)) hrows ?_
      -- A row that ends before the column does so as well when both lose a cell or only the columns do.
      rw [List.length_eraseIdx, List.length_eraseIdx]
      split <;> split <;> omega
  | @cell before after cells others c more columns first rows place =>
      obtain ⟨after', hcolumns⟩ := eraseIdx_append_cons before after column (hplace columns)
      obtain ⟨others', hcells⟩ := eraseIdx_append_cons cells others c (place ▸ hplace columns)
      rw [← columns] at hcolumns
      have hrows : (s.without i).rows =
          (cells.eraseIdx i ++ c :: others') :: more.map (·.eraseIdx i) := by
        rw [Series.without, rows, List.map_cons, hcells]
      refine .cell hcolumns (fun hmem => first (List.mem_of_mem_eraseIdx hmem)) hrows ?_
      rw [List.length_eraseIdx, List.length_eraseIdx, place]

theorem Edit.name_eq (h : s.Edit s') : s'.name = s.name := by
  cases h <;> rfl

/-- An edit of a table changes nothing under the columns that are read. -/
theorem Edit.first?_eq (h : s.Edit s') (hcolumn : column = "dpod_name" ∨ column = "value") :
    s'.first? column = s.first? column := by
  cases h with
  | reorder distinct full order => exact first?_congr fun _ ho => ho.reordered distinct full order
  | remove hname notPeer notValue =>
      refine first?_congr fun _ ho => ho.without hname ?_
      rintro rfl
      exact hcolumn.elim notPeer notValue
  | laterRows rows others => rw [first?, first?, rows]; rfl

end Series

/-! ## Edits of a response -/

/-- A response without an error whose first result holds some series. -/
def Response.ofSeries (series : List Series) (more : List StatementResult := []) : Response :=
  { results := { series } :: more }

/-- Edits of a response without an error: of one series in the first result, of the order of its series if their
names are distinct, the removal of a series that is not asked for, and another rest after the first result. -/
inductive Response.Edit (latency packetLoss : String) : Response → Response → Prop where
  | inSeries {s s' : Series} (edit : s.Edit s') (before after : List Series) (more : List StatementResult) :
      Edit latency packetLoss (.ofSeries (before ++ s :: after) more) (.ofSeries (before ++ s' :: after) more)
  | reorder {series series' : List Series} (distinct : (series.map (·.name)).Nodup)
      (order : series.Perm series') (more : List StatementResult) :
      Edit latency packetLoss (.ofSeries series more) (.ofSeries series' more)
  | remove {s : Series} (notLatency : s.name ≠ latency) (notPacketLoss : s.name ≠ packetLoss)
      (before after : List Series) (more : List StatementResult) :
      Edit latency packetLoss (.ofSeries (before ++ s :: after) more) (.ofSeries (before ++ after) more)
  | laterResults (series : List Series) (more others : List StatementResult) :
      Edit latency packetLoss (.ofSeries series more) (.ofSeries series others)

/-- The cells that are read of a series: the peer and the value. -/
def Series.cells (s : Series) : Option Cell × Option Cell := (s.first? "dpod_name", s.first? "value")

theorem paramOf_dpod_name (series : Option Series) :
    paramOf series "dpod_name" = (((series.map Series.cells).bind (·.1)).map Cell.param).getD .unset := by
  cases series <;> rfl

theorem paramOf_value (series : Option Series) :
    paramOf series "value" = (((series.map Series.cells).bind (·.2)).map Cell.param).getD .unset := by
  cases series <;> rfl

/-- A sample depends only on the cells that are read of the series of the two measurements. -/
theorem StatementResult.sample_congr {r r' : StatementResult} {latency packetLoss : String}
    (h : ∀ name, name = latency ∨ name = packetLoss →
      (r'.find? name).map Series.cells = (r.find? name).map Series.cells) :
    r'.sample latency packetLoss = r.sample latency packetLoss := by
  rw [sample, sample]
  simp only [paramOf_dpod_name, paramOf_value, Option.map_or, h latency (.inl rfl), h packetLoss (.inr rfl)]

theorem find?_perm {series series' : List Series} (distinct : (series.map (·.name)).Nodup)
    (order : series.Perm series') (name : String) :
    series.find? (·.name == name) = series'.find? (·.name == name) := by
  refine List.find?_eq_find?_of_perm order ?_
  rintro s ⟨hs, hname⟩ s' ⟨hs', hname'⟩
  exact List.inj_on_of_nodup_map distinct hs hs'
    ((beq_iff_eq.mp hname).trans (beq_iff_eq.mp hname').symm)

/-- An edit of one series shows where the series is found, and nothing of it is in the cells that are read. -/
theorem find?_inSeries {s s' : Series} (edit : s.Edit s') (before after : List Series) (name : String) :
    ((before ++ s' :: after).find? (·.name == name)).map Series.cells =
      ((before ++ s :: after).find? (·.name == name)).map Series.cells := by
  have hcells : s'.cells = s.cells := by
    rw [Series.cells, Series.cells, edit.first?_eq (.inl rfl), edit.first?_eq (.inr rfl)]
  rw [List.find?_append, List.find?_append, List.find?_cons, List.find?_cons, edit.name_eq]
  cases before.find? (·.name == name) with
  | some found => rfl
  | none =>
      split
      · exact congrArg some hcells
      · rfl

theorem find?_remove {s : Series} {name : String} (hname : s.name ≠ name) (before after : List Series) :
    (before ++ after).find? (·.name == name) = (before ++ s :: after).find? (·.name == name) := by
  rw [List.find?_append, List.find?_append, List.find?_cons_of_neg (by simpa using hname)]

theorem Response.Edit.sample_eq {latency packetLoss : String} {r r' : Response}
    (h : Edit latency packetLoss r r') : r'.sample latency packetLoss = r.sample latency packetLoss := by
  cases h with
  | inSeries edit before after more =>
      exact congrArg Except.ok
        (StatementResult.sample_congr fun name _ => find?_inSeries edit before after name)
  | reorder distinct order more =>
      exact congrArg Except.ok
        (StatementResult.sample_congr fun name _ => congrArg _ (find?_perm distinct order name).symm)
  | remove notLatency notPacketLoss before after more =>
      refine congrArg Except.ok
        (StatementResult.sample_congr fun name hname => congrArg _ (find?_remove ?_ before after))
      rcases hname with rfl | rfl
      · exact notLatency
      · exact notPacketLoss
  | laterResults series more others => rfl

/-- A sample stays the same through any edits there and back. -/
theorem Response.sample_eq_of_edits {latency packetLoss : String} {r r' : Response}
    (h : Relation.EqvGen (Edit latency packetLoss) r r') :
    r'.sample latency packetLoss = r.sample latency packetLoss := by
  induction h with
  | rel _ _ edit => exact edit.sample_eq
  | refl _ => rfl
  | symm _ _ _ ih => exact ih.symm
  | trans _ _ _ _ _ ih ih' => exact ih'.trans ih

/-! ## What a sample is read from -/

/-- Whether a parameter is what a series that may be missing has under a column. -/
inductive ReadsAs (series : Option Series) (column : String) : Param → Prop where
  | noSeries (h : series = none) : ReadsAs series column .unset
  | noCell {s : Series} (h : series = some s) (cell : s.Holds column none) : ReadsAs series column .unset
  | cell {s : Series} {c : Cell} (h : series = some s) (cell : s.Holds column (some c)) :
      ReadsAs series column c.param

theorem readsAs_iff {series : Option Series} {column : String} {p : Param} :
    ReadsAs series column p ↔ p = paramOf series column := by
  constructor
  · rintro (h | ⟨h, cell⟩ | ⟨h, cell⟩)
    · rw [h]
      rfl
    · rw [h, paramOf, Option.bind_some, cell.first?_eq]
      rfl
    · rw [h, paramOf, Option.bind_some, cell.first?_eq]
      rfl
  · rintro rfl
    cases series with
    | none => exact .noSeries rfl
    | some s =>
        obtain ⟨o, ho⟩ := s.exists_holds column
        rw [paramOf, Option.bind_some, ho.first?_eq]
        cases o with
        | none => exact .noCell rfl ho
        | some c => exact .cell rfl ho

/-- A response without an error that has a result gives a sample, and every response that edits make of it gives
the same one. Each of its parameters is what the series of a measurement has under a column, and unset if
there is nothing; the peer is read from the series of the latency if there is one. -/
theorem sample_read_by_name (latency packetLoss : String) (series : List Series)
    (more : List StatementResult) :
    let find (name : String) := series.find? (·.name == name)
    ∃ sample, (Response.ofSeries series more).sample latency packetLoss = .ok sample ∧
      (∀ response, Relation.EqvGen (Response.Edit latency packetLoss) (.ofSeries series more) response →
        response.sample latency packetLoss = .ok sample) ∧
      (∀ p, ReadsAs (find latency) "value" p ↔ p = sample.latency) ∧
      (∀ p, ReadsAs (find packetLoss) "value" p ↔ p = sample.packetLoss) ∧
      ∀ p, ReadsAs ((find latency).or (find packetLoss)) "dpod_name" p ↔ p = sample.label := by
  intro find
  refine ⟨_, rfl, fun response h => ?_, fun _ => readsAs_iff, fun _ => readsAs_iff, fun _ => readsAs_iff⟩
  exact Response.sample_eq_of_edits h

/-- Columns in another order with a row less, and a series that nobody asked for. -/
theorem sample_of_edited_response :
    let table : Series := ⟨"bytes", ["time", "dpod_name", "value"], [[.other, .text "redis", .text "7"], []]⟩
    let edited : Series := ⟨"bytes", ["value", "time", "dpod_name"], [[.text "7", .other, .text "redis"]]⟩
    Relation.EqvGen (Response.Edit "bytes" "packets") (.ofSeries [table])
        (.ofSeries [⟨"errors", ["value"], [[.text "1"]]⟩, edited]) ∧
      (Response.ofSeries [⟨"errors", ["value"], [[.text "1"]]⟩, edited]).sample "bytes" "packets" =
        .ok { label := .set "redis", latency := .set "7" } := by
  intro table edited
  let single : Series := { table with rows := [[.other, .text "redis", .text "7"]] }
  have hrows : Response.Edit "bytes" "packets" (.ofSeries [table]) (.ofSeries [single]) :=
    .inSeries (.laterRows rfl []) [] [] []
  have horder : List.Perm [2, 0, 1] (List.range single.columns.length) := by decide
  have hcolumns : Response.Edit "bytes" "packets" (.ofSeries [single]) (.ofSeries [edited]) :=
    .inSeries (.reorder (by decide) (by decide) horder) [] [] []
  have hseries : Response.Edit "bytes" "packets" (.ofSeries [⟨"errors", ["value"], [[.text "1"]]⟩, edited])
      (.ofSeries [edited]) := .remove (by decide) (by decide) [] [edited] []
  have hedits := (Relation.EqvGen.rel _ _ hrows).trans _ _ _
    ((Relation.EqvGen.rel _ _ hcolumns).trans _ _ _ (.symm _ _ (.rel _ _ hseries)))
  refine ⟨hedits, ?_⟩
  obtain ⟨sample, hsample, hsame, -⟩ := sample_read_by_name "bytes" "packets" [table] []
  rw [hsame _ hedits, ← hsample]
  decide

end TrafficShaping.Metrics
