/-
This file defines the ids at which retention cuts a stream.

The cutoff of an instant has its milliseconds, or zero before 1970, and as its
sequence the millisecond within the second. Entries appended in an earlier
millisecond have lesser ids and those of a later millisecond greater ones.
-/

import AccessFeed.Calendar.Instant
import AccessFeed.Streams.Id

namespace AccessFeed.Streams

open Calendar (Instant)

/-- The cutoff id of an instant. -/
def StreamId.cutoff (at_ : Instant) : StreamId :=
  ⟨at_.millis.toNat.toUInt64, (at_.nanos % Calendar.nanosPerSecond / 1000000).toUInt64⟩

end AccessFeed.Streams
