import ByteGrid.Grid
import ByteGrid.Json.Writer

namespace ByteGrid

open ByteGrid.Json

def Segment.toJson (s : Segment) : Value :=
  .record
    [("end", .nat s.stop), ("field", .option .nat s.content.field?), ("kind", .text s.content.tag),
     ("start", .nat s.start)]

def Row.toJson (r : Row) : Value :=
  .record
    [("end_byte", .nat r.stop), ("label_lines", .nat r.labelLines),
     ("segments", .list Segment.toJson r.segments), ("start_byte", .nat r.start)]

def Usage.toJson (u : Usage) : Value :=
  .record
    [("data_bytes", .nat u.dataBytes), ("efficiency_percent", .float u.efficiency),
     ("low_efficiency", .bool u.isLow), ("padding_bytes", .nat u.paddingBytes),
     ("row_count", .nat u.rowCount), ("tail_padding", .nat u.tailPadding),
     ("total_size", .nat u.totalSize)]

def Label.toJson (l : Label) : Value :=
  .record [("bit_labels", .list .text l.bitLabels), ("kind", .text l.kind.tag), ("text", .text l.text)]

def Grid.plainJson (g : Grid) : Value :=
  .record
    [("label_policy", .text g.policy.name), ("labels", .list Label.toJson g.labels),
     ("max_align", .nat g.maxAlign), ("name", .option .text g.name),
     ("pack_value", .option .nat g.packValue), ("row_width", .nat g.rowWidth),
     ("rows", .list Row.toJson g.rows), ("stats", g.usage.toJson), ("visual_scale", .float g.scale)]

def Grid.segmentJson (g : Grid) (r : Row) (s : Segment) : Value :=
  .record
    [("end", .nat s.stop), ("field", .option .nat s.content.field?), ("kind", .text s.content.tag),
     ("start", .nat s.start), ("width", .float (g.segmentWidth s)), ("x", .float (g.segmentX r s))]

def Grid.rowJson (g : Grid) (r : Row) : Value :=
  .record
    [("end_byte", .nat r.stop), ("height", .float (g.rowHeight r)), ("label_lines", .nat r.labelLines),
     ("segments", .list (g.segmentJson r) r.segments), ("start_byte", .nat r.start),
     ("width", .float (g.rowExtent r))]

def Grid.toJson (g : Grid) (metrics : Bool) : Value :=
  if metrics then g.plainJson.replace "rows" (.list g.rowJson g.rows) else g.plainJson

end ByteGrid
