/-
# DomainFilter.Context — what a domain is evaluated in

Four records, a reading of the clock and the zone of local time. The object is the record under
test: operands that name one of its fields stand for that field. The other three are reached only
through references in condition values.

BOUNDARY: fixing the clock fixes the offset of local time too, at every other time as at the clock's.
-/
import DomainFilter.Value.Basic
import DomainFilter.Calendar.Instant

namespace DomainFilter

/-- The records of an evaluation. -/
structure Records where
  /-- The record under test. -/
  object : Record := []
  /-- The record of the user. -/
  user : Record := []
  /-- The record that the object belongs to. -/
  parent : Record := []
  /-- The settings of the environment. -/
  env : Record := []
  deriving Inhabited

/-- Records with a clock and a zone. -/
structure Context extends Records where
  now : Instant
  zone : Zone

end DomainFilter
