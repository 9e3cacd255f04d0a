import MediaRelay.Daemon.Basic
/-! The command line: one argument at most, the path of the settings. This build of the program has no sockets, so
that what it asks of the web and of Telegram is met by silence. -/

namespace MediaRelay

structure Unreachable where

instance : Telegram.BotApi Unreachable where
  getMe api := (.error .unreachable, api)
  send _ api := (.error .unreachable, api)

def offline : World Unreachable :=
  { network := ⟨fun _ _ => .dropped⟩, client := { timeout := 0 }, messenger := {} }

def defaultConfigPath : String := "config.toml"

def readFile (path : String) : IO ConfigFile := do
  let content ← (some <$> IO.FS.readBinFile path) <|> pure none
  return { path, content }

end MediaRelay

open MediaRelay in
def main (args : List String) : IO UInt32 := do
  let file ← readFile (args.headD defaultConfigPath)
  match Daemon.start file offline with
  | .error e =>
    e.report.forM fun line => IO.eprintln line
    return e.exitCode
  | .ok _ => return 0
