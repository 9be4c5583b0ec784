import ByteGrid.Grid.Json

namespace ByteGrid.Json

variable {key : String} {keys : List String} {members : List (String × Value)} {v : Value}

def Value.member? (record : Value) (key : String) : Option Value :=
  match record with
  | .object members => (members.find? (·.1 = some key)).map (·.2)
  | _ => none

def Value.without (record : Value) (keys : List String) : Value :=
  match record with
  | .object members => .object (members.filter fun m => m.1.all (!keys.contains ·))
  | other => other

def Value.mapMember (record : Value) (key : String) (f : Value → Value) : Value :=
  match record with
  | .object members => .object (members.map fun m => if m.1 = some key then (m.1, f m.2) else m)
  | other => other

def Value.mapItems (array : Value) (f : Value → Value) : Value :=
  match array with
  | .array items => .array (items.map f)
  | other => other

theorem without_record : (Value.record members).without keys =
    .record (members.filter fun m => !keys.contains m.1) := by
  simp only [Value.record, Value.without, List.filter_map, Function.comp_def, Option.all_some]

theorem mapMember_record (f : Value → Value) : (Value.record members).mapMember key f =
    .record (members.map fun m => if m.1 = key then (m.1, f m.2) else m) := by
  simp only [Value.record, Value.mapMember, List.map_map, Function.comp_def, Option.some.injEq]
  congr 2
  funext m
  split <;> rfl

theorem replace_record : (Value.record members).replace key v =
    .record (members.map fun m => if m.1 = key then (m.1, v) else m) :=
  mapMember_record fun _ => v

theorem member?_record : (Value.record members).member? key =
    (members.find? (·.1 = key)).map (·.2) := by
  simp [Value.record, Value.member?, List.find?_map, Function.comp_def]

end ByteGrid.Json

namespace ByteGrid

open ByteGrid.Json

def rowWithoutMetrics (row : Value) : Value :=
  (row.without ["width", "height"]).mapMember "segments" (·.mapItems (·.without ["x", "width"]))

def withoutMetrics (grid : Value) : Value :=
  grid.mapMember "rows" (·.mapItems rowWithoutMetrics)

variable {g : Grid} {r : Row} {s : Segment}

theorem segmentJson_without (g : Grid) (r : Row) (s : Segment) :
    (g.segmentJson r s).without ["x", "width"] = s.toJson := by
  rw [Grid.segmentJson, without_record]
  rfl

theorem rowJson_without (g : Grid) (r : Row) : rowWithoutMetrics (g.rowJson r) = r.toJson := by
  have hsegments : (Value.list (g.segmentJson r) r.segments).mapItems (·.without ["x", "width"]) =
      .list Segment.toJson r.segments := by
    simp [Value.list, Value.mapItems, segmentJson_without]
  rw [rowWithoutMetrics, Grid.rowJson, without_record, mapMember_record, Row.toJson, ← hsegments]
  rfl

theorem toJson_true (g : Grid) : g.toJson true = g.plainJson.replace "rows" (.list g.rowJson g.rows) :=
  rfl

theorem toJson_false (g : Grid) : g.toJson false = g.plainJson :=
  rfl

theorem toJson_without (g : Grid) : withoutMetrics (g.toJson true) = g.toJson false := by
  have hrows : (Value.list g.rowJson g.rows).mapItems rowWithoutMetrics = .list Row.toJson g.rows := by
    simp [Value.list, Value.mapItems, rowJson_without]
  rw [withoutMetrics, toJson_true, toJson_false, Grid.plainJson, replace_record, mapMember_record, ← hrows]
  rfl

theorem toJson_metrics (g : Grid) :
    withoutMetrics (g.toJson true) = g.toJson false ∧
    (g.toJson true).without ["rows"] = (g.toJson false).without ["rows"] ∧
    (g.toJson true).member? "rows" = some (.list g.rowJson g.rows) ∧
    (g.toJson false).member? "rows" = some (.list Row.toJson g.rows) ∧
    ∀ r, rowWithoutMetrics (g.rowJson r) = r.toJson ∧
      (g.rowJson r).member? "width" = some (.float (g.rowExtent r)) ∧
      (g.rowJson r).member? "height" = some (.float (g.rowHeight r)) ∧
      (g.rowJson r).member? "segments" = some (.list (g.segmentJson r) r.segments) ∧
      r.toJson.member? "segments" = some (.list Segment.toJson r.segments) ∧
      ∀ s, (g.segmentJson r s).without ["x", "width"] = s.toJson ∧
        (g.segmentJson r s).member? "x" = some (.float (g.segmentX r s)) ∧
        (g.segmentJson r s).member? "width" = some (.float (g.segmentWidth s)) := by
  refine ⟨toJson_without g, ?_, ?_, ?_, fun r => ⟨rowJson_without g r, ?_, ?_, ?_, ?_, fun s =>
    ⟨segmentJson_without g r s, ?_, ?_⟩⟩⟩
  · rw [toJson_true, toJson_false, Grid.plainJson, replace_record, without_record, without_record]
    rfl
  · rw [toJson_true, Grid.plainJson, replace_record, member?_record]
    rfl
  all_goals rfl

end ByteGrid
