import MediaRelay.Error
/-! How long something has run, in words. -/

namespace MediaRelay

/-- Days, hours, minutes and seconds, from the largest unit that is not zero. -/
def uptimeText (elapsed : Nanos) : String :=
  let total := elapsed / nanosPerSecond
  let days := total / 86400
  let hours := total / 3600 % 24
  let mins := total / 60 % 60
  let secs := total % 60
  if days > 0 then s!"{days}d {hours}h {mins}m {secs}s"
  else if hours > 0 then s!"{hours}h {mins}m {secs}s"
  else if mins > 0 then s!"{mins}m {secs}s"
  else s!"{secs}s"

end MediaRelay
