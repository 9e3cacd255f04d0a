import MediaRelay.Config.Json
import MediaRelay.Config.Toml
/-! Settings in memory beside the file that they were read from and are saved to. Whatever goes wrong leaves the
settings in memory as they are. -/

namespace MediaRelay

structure ConfigFile where
  path : String
  content : Option ByteArray := none
  isWritable : Bool := true
deriving Inhabited

def ConfigFile.load (f : ConfigFile) : Except ConfigError Config :=
  match f.content.bind String.fromUTF8? with
  | none => .error (.unreadable f.path)
  | some text => Config.parse text

inductive SaveError where
  /-- they are not sound, or cannot be written down -/
  | config (cause : ConfigError)
  | file (path : String)
deriving DecidableEq, Repr

def SaveError.message : SaveError → String
  | .config cause => cause.message
  | .file path => s!"Failed to write config file: {path}"

def ConfigFile.save (f : ConfigFile) (c : Config) : Except SaveError ConfigFile :=
  match c.write with
  | .error e => .error (.config e)
  | .ok text => if f.isWritable then .ok { f with content := some text.toUTF8 } else .error (.file f.path)

structure ConfigStore where
  config : Config
  file : ConfigFile
deriving Inhabited

namespace ConfigStore

/-- Reads the file again; settings that are not sound are not taken. -/
def reload (s : ConfigStore) : Except ConfigError ConfigStore :=
  s.file.load.map fun config => { s with config }

/-- Whether a posted token leaves the token as it is: a blank one and the redaction mark do. -/
def keepsToken (token : String) : Bool :=
  let trimmed := Text.trim token.toList
  trimmed.isEmpty || trimmed = Config.redactionMark.toList

/-- The posted settings with the token that they mean. -/
def restored (s : ConfigStore) (posted : Config) : Config :=
  if keepsToken posted.telegram.botToken then posted.withToken s.config.telegram.botToken else posted

def post (s : ConfigStore) (posted : Config) : Except SaveError ConfigStore :=
  let config := s.restored posted
  match config.fault? with
  | some e => .error (.config e)
  | none => (s.file.save config).map fun file => { config, file }

end ConfigStore
end MediaRelay
