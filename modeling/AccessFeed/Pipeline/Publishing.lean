/-
This file defines how access events are published.

Publishing never fails for the service whose requests are told of: an event that
the store does not take is written to the log and counted, and that is all.
-/

import AccessFeed.Calendar.Stamp
import AccessFeed.Calendar.Zone
import AccessFeed.Event.Access
import AccessFeed.Pipeline.Basic

namespace AccessFeed.Pipeline

open Calendar (Zone)
open Event (AccessEvent)

/-- The text of the present in a time zone, as published events carry it. -/
def createdAtText (pipeline : Pipeline) (zone : Zone) : String :=
  pipeline.wall.stamp (zone.offsetAt pipeline.wall.seconds) .micros

/-- Publishes an event to a stream. -/
def publish (pipeline : Pipeline) (zone : Zone) (stream : String) (event : AccessEvent) :
    Pipeline :=
  let fields := event.toFields (pipeline.createdAtText zone)
  match pipeline.ask fun service => service.append pipeline.wallMillis stream fields with
  | (.ok _, pipeline) => pipeline.count (.eventsPublished stream "success") 1
  | (.error _, pipeline) =>
    (pipeline.error "Event publish failed").count (.eventsPublished stream "failed") 1

end AccessFeed.Pipeline
