import InputUdev.Capability
import InputUdev.IoError

/-!
# Probes

A capability source answers a probe of a device node with a snapshot or a failure.
-/

namespace InputUdev

inductive ProbeError where
  | unreadable (cause : IoError)
  | missingName (devnode : String)
  /-- The event device interface refused an answer. -/
  | device (text : String)
  deriving DecidableEq, Repr

def ProbeError.message : ProbeError → String
  | unreadable cause => "IO error: " ++ cause.message
  | missingName devnode => "Device " ++ devnode ++ " reports no name"
  | device text => "Event device error: " ++ text

/-- What a probe of each device node answers. -/
abbrev CapabilitySource := String → Except ProbeError Snapshot

end InputUdev
