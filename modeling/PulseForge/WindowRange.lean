-- The range of the detection window: its start is a subtraction on a bounded
-- clock. Without an active incident, an event of the first minute of year 1 has
-- no window, and with one whose time cannot be read back the evaluation raises:
-- the request that brings such an event loses it.
import PulseForge.Loading

open txn table

namespace pulseforge

variable [Platform]

/-! ## Failing events and their evaluation -/

section
variable {e : Env} {event : Event} {s s' : Store}

end

/-! ## The request -/

section
variable {e : Env} {credentials : Option Bearer} {payload : EventCreate} {api_key : ApiKey} {s : Store}

end

end pulseforge
