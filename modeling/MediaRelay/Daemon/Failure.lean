import MediaRelay.Config.Basic
import MediaRelay.Download
import MediaRelay.Error
import MediaRelay.Schedule.Cron
import MediaRelay.Telegram.Failure
/-! Why the program ends by itself, and how that is reported: what it could not do, and below it the causes. -/

namespace MediaRelay.Daemon

inductive Failure where
  /-- the settings at this path are not to be had, or not sound -/
  | config (path : String) (cause : ConfigError)
  /-- the job has no schedule -/
  | schedule (job : String)
  | connection (cause : Telegram.Failure)
  /-- the settings ask for more downloads at once than there can be, which crashes the program -/
  | permits
deriving DecidableEq, Repr

namespace Failure

def message : Failure → String
  | .config path _ => s!"Failed to load config from {path}"
  | .schedule job => Cron.failure job
  | .connection _ => "Failed to connect to Telegram"
  | .permits => Downloader.crash

def causes : Failure → List String
  | .config _ cause => [cause.message]
  | .schedule _ => []
  | .connection cause => (TransportError.telegram cause).message :: cause.message :: cause.causes
  | .permits => []

def causeLines : List String → List String
  | [] => []
  | [cause] => ["", "Caused by:", "    " ++ cause]
  | causes => "" :: "Caused by:" :: causes.mapIdx fun i cause => s!"    {i}: {cause}"

/-- The lines of the report. That of a crash also says where in the program it was, which is left out. -/
def report : Failure → List String
  | .permits => [message .permits]
  | e => s!"Error: {e.message}" :: causeLines e.causes

def exitCode : Failure → UInt32
  | .permits => 101
  | _ => 1

end Failure
end MediaRelay.Daemon
