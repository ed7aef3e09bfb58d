import LoadTest.Json.Document
import LoadTest.Series.Instant

/-!
# Lines of a stream

Every line of a stream is a document of its own. A `StreamLine` is what it says about one point:
the kind of line, the metric, the time and the value.
-/

namespace LoadTest

open Json (Decoder Member Record)

/-- The data of a point. -/
structure PointData where
  time : Option String
  value : Option Binary64

/-- What a line says about one point. -/
structure StreamLine where
  kind : Option String
  metric : Option String
  time : Option String
  data : Option PointData

namespace PointData

/-- The members of the data, each of which may be absent. -/
def record : Record PointData :=
  (Record.pure PointData.mk)
    |>.andMember (.optional "time" .text)
    |>.andMember (.optional "value" .binary64)

def decoder : Decoder PointData :=
  record.ofTree "struct RecordData"

end PointData

namespace StreamLine

/-- The members of a line, each of which may be absent. -/
def record : Record StreamLine :=
  (Record.pure StreamLine.mk)
    |>.andMember (.optional "type" .text)
    |>.andMember (.optional "metric" .text)
    |>.andMember (.optional "time" .text)
    |>.andMember (.optional "data" PointData.decoder)

def decoder : Decoder StreamLine :=
  record.ofTree "struct Record"

/-- What a line says, if it is a document of that shape. -/
def ofChars? (cs : List Char) : Option StreamLine :=
  (decoder.ofChars cs).toOption

/-- The time of the line, or of its data where the line has none. -/
def instant? (line : StreamLine) : Option Instant :=
  match line.time with
  | some time => Instant.ofChars? time.toList
  | none => (line.data.bind PointData.time).bind fun time => Instant.ofChars? time.toList

end StreamLine

end LoadTest
