import FeatureTrials.Json.Value
import FeatureTrials.Time.Timestamp

/-!
# Times as JSON

Instants are strings, spans whole seconds.
-/

namespace FeatureTrials

/-- Reads a timestamp. -/
def Instant.ofJson? (j : Json) : Option Instant := j.text?.bind Instant.ofText?

/-- Writes a timestamp. -/
def Instant.toJson (t : Instant) : Json := .str t.text

/-- Reads a number of seconds. -/
def Span.ofJson? (j : Json) : Option Span := j.nat?.map Span.ofSeconds

/-- Writes the nearest number of seconds. -/
def Span.toJson (d : Span) : Json := .int d.seconds

end FeatureTrials
