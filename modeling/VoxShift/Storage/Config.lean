import VoxShift.Core.State
import VoxShift.Theory.Crash

/-!
# The configuration file

`voxshift-storage`'s `config.rs`: `load` with `load_from` and `backup_corrupt`, and
`save` with `save_to`.

## The model

* The directory is three files, `config.json`, `config.json.tmp` and
  `config.json.bak`; a file is missing or holds bytes (`Disk`).
* How each call to the operating system goes is passed in (`SaveOutcomes`,
  `LoadOutcomes`). A call that crashes has taken effect first, so that a crash before
  it is a crash of the call before. A write that does not finish leaves the first
  `written` bytes.
* Renaming is atomic.
* `serde_json` is a parameter (`SerdeJson`).
* An `f32` is its bits.
-/

namespace VoxShift.Storage

open VoxShift.Core VoxShift.Theory

/-- The contents of a file. -/
abbrev Bytes := List UInt8

/-- The bits of an `f32`. -/
abbrev F32 := BitVec 32

/-- `f32::is_finite`: the exponent is not all ones. -/
def F32.isFinite (x : F32) : Bool := x.extractLsb' 23 8 != 255#8

/-- `CoreError`, as far as the configuration file meets it. -/
inductive CoreError where
  | configCorrupt (message : String)
  | io (message : String)
  deriving DecidableEq, Repr

/-! ### The configuration -/

/-- `Theme`. -/
inductive Theme where
  | dark
  | light
  | system
  deriving DecidableEq, Repr

/-- `VrChatConfig`. -/
structure VrChatConfig where
  host : String
  sendPort : ℕ
  receivePort : ℕ
  commandTimeoutMs : ℕ
  deriving DecidableEq, Repr

/-- `DiscordConfig`. -/
structure DiscordConfig where
  connectAutomatically : Bool
  deriving DecidableEq, Repr

/-- `StartupConfig`. -/
structure StartupConfig where
  runWithWindows : Bool
  startMinimized : Bool
  deriving DecidableEq, Repr

/-- `LoggingConfig`. -/
structure LoggingConfig where
  level : String
  fileLogging : Bool
  deriving DecidableEq, Repr

/-- `AccessibilityConfig`. -/
structure AccessibilityConfig where
  textScale : F32
  deriving DecidableEq, Repr

/-- `AppConfig`. -/
structure AppConfig where
  schemaVersion : ℕ
  linkMode : LinkMode
  linkEnabled : Bool
  startupAuthority : StartupAuthority
  resumePolicy : ResumePolicy
  theme : Theme
  reducedMotion : Bool
  vrchat : VrChatConfig
  discord : DiscordConfig
  startup : StartupConfig
  logging : LoggingConfig
  accessibility : AccessibilityConfig
  language : String
  deriving DecidableEq, Repr

/-- `VrChatConfig::default`. -/
def VrChatConfig.default : VrChatConfig where
  host := "127.0.0.1"
  sendPort := 9000
  receivePort := 9001
  commandTimeoutMs := 1500

/-- `DiscordConfig::default`. -/
def DiscordConfig.default : DiscordConfig where
  connectAutomatically := true

/-- `StartupConfig::default`. -/
def StartupConfig.default : StartupConfig where
  runWithWindows := false
  startMinimized := true

/-- `LoggingConfig::default`. -/
def LoggingConfig.default : LoggingConfig where
  level := "warning"
  fileLogging := false

/-- `AccessibilityConfig::default`; the scale is `1.0`. -/
def AccessibilityConfig.default : AccessibilityConfig where
  textScale := 0x3F800000#32

/-- `AppConfig::default`. -/
def AppConfig.default : AppConfig where
  schemaVersion := 1
  linkMode := .inverseBidirectional
  linkEnabled := true
  startupAuthority := .vrchat
  resumePolicy := .syncFromVrchat
  theme := .system
  reducedMotion := false
  vrchat := .default
  discord := .default
  startup := .default
  logging := .default
  accessibility := .default
  language := "en"

/-- Every number of the configuration has a text in JSON. -/
def AppConfig.isFinite (c : AppConfig) : Bool := F32.isFinite c.accessibility.textScale

theorem AppConfig.isFinite_default : AppConfig.default.isFinite = true := by decide

/-! ### Its text -/

/-- The two functions of `serde_json` that are used. -/
structure SerdeJson where
  fromSlice : Bytes → Option AppConfig
  toVecPretty : AppConfig → Except String Bytes

/-- `MAX_CONFIG_SIZE_BYTES`. -/
def MAX_CONFIG_SIZE_BYTES : ℕ := 256 * 1024

/-- A leading UTF-8 byte order mark is dropped. -/
def stripBom : Bytes → Bytes
  | 0xEF :: 0xBB :: 0xBF :: data => data
  | data => data

namespace SerdeJson

/-- The configuration that the contents of a file are parsed to. -/
def parse (serde : SerdeJson) (data : Bytes) : Option AppConfig := serde.fromSlice (stripBom data)

/-- The contents are not too large and are parsed to `c`. -/
def Accepts (serde : SerdeJson) (data : Bytes) (c : AppConfig) : Prop :=
  data.length ≤ MAX_CONFIG_SIZE_BYTES ∧ serde.parse data = some c

instance (serde : SerdeJson) (data : Bytes) (c : AppConfig) : Decidable (serde.Accepts data c) :=
  inferInstanceAs (Decidable (_ ∧ _))

/-- What `serde_json` does with one configuration: it is written as an object, and read back if its
numbers are finite. Other numbers are written as `null`, which is no `f32`. -/
structure Faithful (serde : SerdeJson) (c : AppConfig) (json : Bytes) : Prop where
  written : serde.toVecPretty c = .ok json
  object : json.head? = some 0x7B
  finite : c.isFinite = true → serde.fromSlice json = some c
  null : c.isFinite = false → serde.fromSlice json = none

end SerdeJson

/-! ### The directory -/

/-- A file of the directory. -/
inductive File where
  /-- `config.json`. -/
  | config
  /-- `config.json.tmp`. -/
  | tmp
  /-- `config.json.bak`. -/
  | bak
  deriving DecidableEq, Repr

/-- What the files hold, where they are there. -/
abbrev Disk := File → Option Bytes

/-- A file gets new contents, or is removed. -/
def Disk.put (d : Disk) (file : File) (contents : Option Bytes) : Disk :=
  Function.update d file contents

/-- A program on the directory. -/
abbrev Fs := Prog Disk CoreError

/-- The error of a call on a file that is not there. -/
def notFound : CoreError := .io "The system cannot find the file specified. (os error 2)"

/-- `Path::exists`, which takes an error for a missing file. -/
def pathExists (o : Outcome CoreError) : Fs Bool where
  run d :=
    match o with
    | .ok => (.done (d .config).isSome, d)
    | .err _ => (.done false, d)
    | .crash => (.crashed, d)

/-- What `config.json` holds. -/
def Disk.configData (d : Disk) : Except CoreError Bytes :=
  match d .config with
  | some data => .ok data
  | none => .error notFound

/-- The length of `config.json`. -/
def Disk.configLen (d : Disk) : Except CoreError ℕ := d.configData.map List.length

/-- `std::fs::metadata`, of which the length is used. -/
def metadataLen (o : Outcome CoreError) : Fs ℕ := Prog.ask o Disk.configLen

/-- `std::fs::read`. -/
def readFile (o : Outcome CoreError) : Fs Bytes := Prog.ask o Disk.configData

/-- `std::fs::rename`. -/
def renameFile (o : Outcome CoreError) (src dst : File) : Fs Unit where
  run d :=
    match d src with
    | some data => (Prog.op o fun d => (d.put dst (some data)).put src none).run d
    | none => (.failed notFound, d)

/-- `File::create`. -/
def createTmp (o : Outcome CoreError) : Fs Unit := Prog.op o (·.put .tmp (some []))

/-- `File::write_all`; `written` bytes have been written where it does not finish. -/
def writeAll (o : Outcome CoreError) (written : ℕ) (json : Bytes) : Fs Unit where
  run d := (o.exit, d.put .tmp (some (if o.isOk then json else json.take written)))

/-! ### Saving -/

/-- How the calls of `save_to` go. -/
structure SaveOutcomes where
  createDirAll : Outcome CoreError
  create : Outcome CoreError
  write : Outcome CoreError
  written : ℕ
  syncAll : Outcome CoreError
  rename : Outcome CoreError
  deriving Repr

/-- `serde_json::to_vec_pretty`, with its error as `save_to` reports it. -/
def serialize (serde : SerdeJson) (cfg : AppConfig) : Fs Bytes :=
  match serde.toVecPretty cfg with
  | .ok json => pure json
  | .error e => Prog.fail (.configCorrupt ("failed to serialize config: " ++ e))

/-- `save_to`. -/
def saveTo (serde : SerdeJson) (o : SaveOutcomes) (cfg : AppConfig) : Fs Unit := do
  Prog.op o.createDirAll id
  let json ← serialize serde cfg
  createTmp o.create
  writeAll o.write o.written json
  Prog.op o.syncAll id
  renameFile o.rename .tmp .config

/-- `config_path`: whether there is a directory for it. -/
def configPath (resolved : Bool) : Fs Unit :=
  if resolved then pure () else Prog.fail (.configCorrupt "could not resolve %LOCALAPPDATA%")

/-- `save`. -/
def save (serde : SerdeJson) (resolved : Bool) (o : SaveOutcomes) (cfg : AppConfig) : Fs Unit := do
  configPath resolved
  saveTo serde o cfg

/-! ### Loading -/

/-- How the calls of `load` go. -/
structure LoadOutcomes where
  /-- `config_path` finds a directory. -/
  resolved : Bool
  pathExists : Outcome CoreError
  metadata : Outcome CoreError
  read : Outcome CoreError
  /-- The rename of `backup_corrupt`. -/
  backup : Outcome CoreError
  /-- The save of `load_from`. -/
  save : SaveOutcomes
  /-- The save of `load`, after `load_from` has failed. -/
  fallback : SaveOutcomes
  deriving Repr

/-- `backup_corrupt`. -/
def backupCorrupt (o : Outcome CoreError) : Fs Unit := renameFile o .config .bak

/-- `load_from`. -/
def loadFrom (serde : SerdeJson) (o : LoadOutcomes) : Fs AppConfig := do
  if ← pathExists o.pathExists then
    let len ← metadataLen o.metadata
    if MAX_CONFIG_SIZE_BYTES < len then
      backupCorrupt o.backup
      saveTo serde o.save .default
      pure .default
    else
      let data ← readFile o.read
      match serde.parse data with
      | some cfg =>
        saveTo serde o.save cfg
        pure cfg
      | none =>
        backupCorrupt o.backup
        saveTo serde o.save .default
        pure .default
  else
    saveTo serde o.save .default
    pure .default

/-- `load`, which has no error of its own. -/
def load (serde : SerdeJson) (o : LoadOutcomes) : Prog Disk Empty AppConfig := do
  match ← (configPath o.resolved).attempt with
  | .error _ => pure .default
  | .ok () =>
    match ← (loadFrom serde o).attempt with
    | .ok cfg => pure cfg
    | .error _ =>
      let _saved ← (saveTo serde o.fallback .default).attempt
      pure .default

end VoxShift.Storage
