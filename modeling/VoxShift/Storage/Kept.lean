import VoxShift.Storage.Config

/-!
# What a failed load leaves behind

`load` writes on every path: it writes back what it has read, and it answers every
error, of whatever call, by saving the default configuration. So whether a good
configuration survives depends on what goes wrong before which save.

## What is proved

* `saveTo_exit` — how a save ends, and what `config.json` holds then, whichever of its
  calls fails or crashes.
* `load_files` — what `config.json` and the backup hold after a load that finds a good
  configuration.
* `good_config_kept_iff` — exactly when that configuration survives.
* `read_error_resets_config` — an error while reading is enough to lose it.
-/

namespace VoxShift.Storage

open VoxShift.Core VoxShift.Theory

/-! ### A save -/

namespace SaveOutcomes

/-- How the calls before the rename go. -/
def upToSync (o : SaveOutcomes) : Outcome CoreError :=
  o.createDirAll.and (o.create.and (o.write.and o.syncAll))

/-- The save gets as far as the rename, and the rename takes effect. -/
def completes (o : SaveOutcomes) : Bool := o.upToSync.isOk && o.rename.takes

/-- How the save ends. -/
def all (o : SaveOutcomes) : Outcome CoreError := o.upToSync.and o.rename

/-- A call of the save is refused, and none crashes before. -/
def fails (o : SaveOutcomes) : Bool := o.all.isErr

end SaveOutcomes

variable {serde : SerdeJson} {cfg : AppConfig} {json : Bytes}

theorem saveTo_bak (serde : SerdeJson) (o : SaveOutcomes) (cfg : AppConfig) :
    Prog.Keeps (fun d : Disk => d .bak) (saveTo serde o cfg) := by
  refine .bind (.op _ fun _ => rfl) fun _ => .bind ?_ fun json =>
    .bind (.op _ fun _ => rfl) fun _ =>
    .bind (fun _ => rfl) fun _ => .bind (.op _ fun _ => rfl) fun _ d => ?_
  · unfold serialize
    split
    · exact .pure _ _
    · exact .fail _ _
  · simp only [renameFile]
    split
    · cases o.rename <;> rfl
    · rfl

/-- How a save ends, and what `config.json` holds then: the new text if the save completes, and
otherwise what it held. -/
theorem saveTo_exit (hjson : serde.toVecPretty cfg = .ok json) (o : SaveOutcomes) (d : Disk) :
    ((saveTo serde o cfg).run d).1 = o.all.exit ∧
      ((saveTo serde o cfg).run d).2 .config = if o.completes then some json else d .config := by
  obtain ⟨createDirAll, create, write, written, syncAll, rename⟩ := o
  simp only [saveTo, serialize, hjson, SaveOutcomes.all, SaveOutcomes.completes,
    SaveOutcomes.upToSync]
  cases createDirAll with
  | err e => exact ⟨rfl, rfl⟩
  | crash => exact ⟨rfl, rfl⟩
  | ok => cases create with
    | err e => exact ⟨rfl, rfl⟩
    | crash => exact ⟨rfl, rfl⟩
    | ok => cases write with
      | err e => exact ⟨rfl, rfl⟩
      | crash => exact ⟨rfl, rfl⟩
      | ok => cases syncAll with
        | err e => exact ⟨rfl, rfl⟩
        | crash => exact ⟨rfl, rfl⟩
        | ok => cases rename <;> exact ⟨rfl, rfl⟩

/-! ### A load -/

namespace LoadOutcomes

/-- How the calls of `load_from` on a good configuration go, once it is found. -/
def found (o : LoadOutcomes) : Outcome CoreError := (o.metadata.and o.read).and o.save.all

/-- `load_from` fails: a call is refused, and none crashes before. Where the file is taken to be
missing, the calls are those of the save. -/
def fails (o : LoadOutcomes) : Bool :=
  match o.pathExists with
  | .ok => o.found.isErr
  | .err _ => o.save.fails
  | .crash => false

/-- The default configuration is saved to `config.json`: because the file was taken to be missing,
or because `load_from` has failed. -/
def resets (o : LoadOutcomes) : Bool :=
  o.resolved && ((o.pathExists.isErr && o.save.completes) || (o.fails && o.fallback.completes))

/-- The file is found and read. -/
def reads (o : LoadOutcomes) : Bool := o.pathExists.isOk && (o.metadata.and o.read).isOk

/-- What has been read is saved to `config.json`. -/
def writesBack (o : LoadOutcomes) : Bool := o.resolved && o.reads && o.save.completes

end LoadOutcomes

theorem saveTo_then (hjson : serde.toVecPretty cfg = .ok json) (o : SaveOutcomes) (d : Disk)
    (c : AppConfig) :
    let r := ((saveTo serde o cfg >>= fun _ => pure c) : Fs AppConfig).run d
    r.1.isFailed = o.fails ∧ r.2 .config = (if o.completes then some json else d .config) ∧
      r.2 .bak = d .bak := by
  obtain ⟨hexit, hconfig⟩ := saveTo_exit hjson o d
  have hbak := saveTo_bak serde o cfg d
  rw [Prog.run_bind]
  generalize (saveTo serde o cfg).run d = reached at hexit hconfig hbak ⊢
  obtain ⟨exit, d'⟩ := reached
  obtain rfl : exit = o.all.exit := hexit
  rw [SaveOutcomes.fails]
  cases o.all with
  | ok => exact ⟨rfl, hconfig, hbak⟩
  | err e => exact ⟨rfl, hconfig, hbak⟩
  | crash => exact ⟨rfl, hconfig, hbak⟩

/-- `load_from`, where the file is taken to be missing. -/
theorem loadFrom_missing (o : LoadOutcomes) {e : CoreError} (hexists : o.pathExists = .err e)
    (d : Disk) :
    (loadFrom serde o).run d =
      ((saveTo serde o.save .default >>= fun _ => pure .default) : Fs AppConfig).run d := by
  rw [loadFrom, Prog.run_bind, hexists]
  rfl

/-- `load_from`, where a good configuration is found. -/
theorem loadFrom_found {data : Bytes} {d : Disk} (hdata : d .config = some data)
    (hgood : serde.Accepts data cfg)
    {o : LoadOutcomes} (hexists : o.pathExists = .ok) :
    (loadFrom serde o).run d =
      match o.metadata.and o.read with
      | .ok => ((saveTo serde o.save cfg >>= fun _ => pure cfg) : Fs AppConfig).run d
      | .err e => (.failed e, d)
      | .crash => (.crashed, d) := by
  obtain ⟨hlen, hparse⟩ := hgood
  have hnot : ¬ MAX_CONFIG_SIZE_BYTES < data.length := by omega
  have hexists' : (pathExists o.pathExists).run d = (.done true, d) := by
    simp [pathExists, hexists, hdata]
  have hconfig : d.configData = .ok data := by simp [Disk.configData, hdata]
  have hlength : d.configLen = .ok data.length := by
    rw [Disk.configLen, hconfig]
    rfl
  rw [loadFrom, Prog.run_bind, hexists']
  simp only [if_true]
  rw [Prog.run_bind, metadataLen, Prog.run_ask _ hlength]
  cases o.metadata with
  | err e => rfl
  | crash => rfl
  | ok =>
    simp only [if_neg hnot, Outcome.and]
    rw [Prog.run_bind, readFile, Prog.run_ask _ hconfig]
    cases o.read with
    | err e => rfl
    | crash => rfl
    | ok => simp only [hparse]

/-- What `load_from` does with a good configuration: whether it fails, what `config.json` holds
then, and that the backup is as it was. -/
theorem loadFrom_good {defaultJson data : Bytes} {d : Disk} (hdata : d .config = some data)
    (hgood : serde.Accepts data cfg) (hjson : serde.toVecPretty cfg = .ok json)
    (hdefault : serde.toVecPretty .default = .ok defaultJson) (o : LoadOutcomes) :
    ((loadFrom serde o).run d).1.isFailed = o.fails ∧
      ((loadFrom serde o).run d).2 .config =
        (if o.pathExists.isErr && o.save.completes then some defaultJson
        else if o.reads && o.save.completes then some json else some data) ∧
      ((loadFrom serde o).run d).2 .bak = d .bak := by
  rw [LoadOutcomes.fails, LoadOutcomes.reads]
  cases hexists : o.pathExists with
  | err e =>
    rw [loadFrom_missing o hexists d]
    obtain ⟨hfails, hconfig, hbak⟩ := saveTo_then hdefault o.save d .default
    exact ⟨hfails, by simpa [Outcome.isErr, Outcome.isOk, hdata] using hconfig, hbak⟩
  | crash =>
    rw [loadFrom, Prog.run_bind, hexists]
    exact ⟨rfl, hdata, rfl⟩
  | ok =>
    rw [loadFrom_found hdata hgood hexists, LoadOutcomes.found]
    cases hread : o.metadata.and o.read with
    | err e => simp [Outcome.and, Outcome.isErr, Outcome.isOk, Exit.isFailed, hdata]
    | crash => simp [Outcome.and, Outcome.isErr, Outcome.isOk, Exit.isFailed, hdata]
    | ok =>
      obtain ⟨hfails, hconfig, hbak⟩ := saveTo_then hjson o.save d cfg
      exact ⟨hfails, by simpa [hread, Outcome.isErr, Outcome.isOk, hdata] using hconfig, hbak⟩

theorem load_of_loadFrom {o : LoadOutcomes} (hresolved : o.resolved = true) (d : Disk) :
    (load serde o).run d =
      match (loadFrom serde o).run d with
      | (.done c, d') => (.done c, d')
      | (.failed _, d') =>
        (((saveTo serde o.fallback .default).attempt >>= fun _ => pure .default) :
          Prog Disk Empty AppConfig).run d'
      | (.crashed, d') => (.crashed, d') := by
  have hpath : (configPath o.resolved).attempt.run d =
      ((.done (.ok ()), d) : Exit Empty _ × Disk) := by
    rw [hresolved]
    rfl
  rw [load, Prog.run_bind, hpath]
  simp only
  rw [Prog.run_bind, Prog.run_attempt]
  generalize (loadFrom serde o).run d = reached
  obtain ⟨c | e | _, d'⟩ := reached <;> rfl

/-- What `config.json` and the backup hold after the default configuration has been saved for want
of a better. -/
theorem fallback_files {defaultJson : Bytes}
    (hdefault : serde.toVecPretty .default = .ok defaultJson) (o : SaveOutcomes) (d : Disk) :
    let r := (((saveTo serde o .default).attempt >>= fun _ => pure .default) :
      Prog Disk Empty AppConfig).run d
    r.2 .config = (if o.completes then some defaultJson else d .config) ∧ r.2 .bak = d .bak := by
  have hconfig := (saveTo_exit hdefault o d).2
  have hbak := saveTo_bak serde o .default d
  rw [Prog.run_bind, Prog.run_attempt]
  generalize (saveTo serde o .default).run d = reached at hconfig hbak ⊢
  obtain ⟨_ | e | _, d'⟩ := reached
  · exact ⟨hconfig, hbak⟩
  · exact ⟨hconfig, hbak⟩
  · exact ⟨hconfig, hbak⟩

/-- **What a load leaves behind** of a good configuration: the default configuration, or what has
been read as it is written back, or the file as it was. The backup is as it was. -/
theorem load_files {defaultJson data : Bytes} {d : Disk} (hdata : d .config = some data)
    (hgood : serde.Accepts data cfg) (hjson : serde.toVecPretty cfg = .ok json)
    (hdefault : serde.toVecPretty .default = .ok defaultJson) (o : LoadOutcomes) :
    ((load serde o).run d).2 .config =
        (if o.resets then some defaultJson else if o.writesBack then some json else some data) ∧
      ((load serde o).run d).2 .bak = d .bak := by
  rw [LoadOutcomes.resets, LoadOutcomes.writesBack]
  cases hresolved : o.resolved with
  | false =>
    have hpath : (configPath o.resolved).attempt.run d =
        ((.done (.error (.configCorrupt "could not resolve %LOCALAPPDATA%")), d) :
          Exit Empty _ × Disk) := by
      rw [hresolved]
      rfl
    rw [load, Prog.run_bind, hpath]
    exact ⟨hdata, rfl⟩
  | true =>
    obtain ⟨hfails, hconfig, hbak⟩ := loadFrom_good hdata hgood hjson hdefault o
    rw [load_of_loadFrom hresolved]
    generalize (loadFrom serde o).run d = reached at hfails hconfig hbak ⊢
    obtain ⟨c | e | _, d'⟩ := reached
    · have hnot : o.fails = false := hfails.symm
      simp only [hnot, Bool.false_and, Bool.or_false, Bool.true_and]
      exact ⟨hconfig, hbak⟩
    · have hfailed : o.fails = true := hfails.symm
      obtain ⟨hconfig', hbak'⟩ := fallback_files hdefault o.fallback d'
      refine ⟨hconfig'.trans ?_, hbak'.trans hbak⟩
      cases hfallback : o.fallback.completes with
      | true => simp [hfailed]
      | false => simpa using hconfig
    · have hnot : o.fails = false := hfails.symm
      simp only [hnot, Bool.false_and, Bool.or_false, Bool.true_and]
      exact ⟨hconfig, hbak⟩

/-! ### A good configuration -/

/-- A file holds contents that are parsed to `c`. -/
def Holds (serde : SerdeJson) (d : Disk) (file : File) (c : AppConfig) : Prop :=
  (d file).bind serde.parse = some c

instance (serde : SerdeJson) (d : Disk) (file : File) (c : AppConfig) :
    Decidable (Holds serde d file c) :=
  inferInstanceAs (Decidable (_ = _))

theorem holds_iff {d : Disk} {file : File} {c : AppConfig} {data : Bytes} (h : d file = some data) :
    Holds serde d file c ↔ serde.parse data = some c := by
  rw [Holds, h, Option.bind_some]

/-- The text of an object begins with no byte order mark. -/
theorem stripBom_object {json : Bytes} (h : json.head? = some 0x7B) : stripBom json = json := by
  match json, h with
  | b :: data, h =>
    obtain rfl : b = 0x7B := by simpa using h
    rfl

namespace SerdeJson.Faithful

theorem parse (h : serde.Faithful cfg json) :
    serde.parse json = if cfg.isFinite then some cfg else none := by
  rw [SerdeJson.parse, stripBom_object h.object]
  cases hfinite : cfg.isFinite with
  | true => exact h.finite hfinite
  | false => exact h.null hfinite

end SerdeJson.Faithful

theorem load_holds_iff {defaultJson data : Bytes} {d : Disk} (hdata : d .config = some data)
    (hgood : serde.Accepts data cfg) (hcfg : serde.Faithful cfg json)
    (hdefault : serde.Faithful .default defaultJson) (o : LoadOutcomes) :
    Holds serde ((load serde o).run d).2 .config cfg ↔
      (o.resets = true → cfg = .default) ∧ (o.writesBack = true → cfg.isFinite = true) := by
  have hconfig := (load_files hdata hgood hcfg.written hdefault.written o).1
  cases hresets : o.resets with
  | true =>
    rw [hresets, if_pos rfl] at hconfig
    rw [holds_iff hconfig, hdefault.parse, AppConfig.isFinite_default, if_pos rfl]
    constructor
    · intro h
      obtain rfl : AppConfig.default = cfg := Option.some.inj h
      exact ⟨fun _ => rfl, fun _ => AppConfig.isFinite_default⟩
    · rintro ⟨h, -⟩
      rw [h rfl]
  | false =>
    rw [hresets, if_neg Bool.false_ne_true] at hconfig
    cases hwrites : o.writesBack with
    | true =>
      rw [hwrites, if_pos rfl] at hconfig
      rw [holds_iff hconfig, hcfg.parse]
      cases hfinite : cfg.isFinite <;> simp
    | false =>
      rw [hwrites, if_neg Bool.false_ne_true] at hconfig
      rw [holds_iff hconfig]
      simp [hgood.2]

theorem save_holds_iff {cfg' : AppConfig} {json' data : Bytes} {d : Disk}
    (hdata : d .config = some data)
    (hparse : serde.parse data = some cfg) (hcfg' : serde.Faithful cfg' json') (resolved : Bool)
    (o : SaveOutcomes) :
    (Holds serde ((save serde resolved o cfg').run d).2 .config cfg ∨
        Holds serde ((save serde resolved o cfg').run d).2 .config cfg') ↔
      (resolved = true → o.completes = true → cfg'.isFinite = true) := by
  cases resolved with
  | false =>
    have hconfig : ((save serde false o cfg').run d).2 .config = some data := hdata
    rw [holds_iff hconfig, holds_iff hconfig]
    simp [hparse]
  | true =>
    have hconfig : ((save serde true o cfg').run d).2 .config =
        if o.completes then some json' else d .config := (saveTo_exit hcfg'.written o d).2
    cases hcompletes : o.completes with
    | false =>
      rw [hcompletes, if_neg Bool.false_ne_true, hdata] at hconfig
      rw [holds_iff hconfig, holds_iff hconfig]
      simp [hparse]
    | true =>
      rw [hcompletes, if_pos rfl] at hconfig
      rw [holds_iff hconfig, holds_iff hconfig, hcfg'.parse]
      cases hfinite : cfg'.isFinite <;> simp

/-- **A good configuration is kept** by `load` and by `save`, exactly when nothing else is saved
over it. Let `config.json` hold contents that are accepted as the configuration `c`, and let any
calls fail, and the program crash at any of them.

After `load`, `config.json` or `config.json.bak` holds contents that are parsed to `c` if and only
if the backup already did, or no save of the default configuration completes where `c` is another,
and no save of `c` itself completes where its text scale is infinite.

After `save` of `c'`, `config.json` holds contents that are parsed to `c` or to `c'` if and only if
the save does not complete, or the text scale of `c'` is finite. -/
theorem good_config_kept_iff {serde : SerdeJson} {c c' : AppConfig}
    {json json' defaultJson data : Bytes} {d : Disk} (hdata : d .config = some data)
    (hgood : serde.Accepts data c) (hc : serde.Faithful c json)
    (hc' : serde.Faithful c' json') (hdefault : serde.Faithful .default defaultJson) :
    (∀ o : LoadOutcomes,
        (Holds serde ((load serde o).run d).2 .config c ∨
            Holds serde ((load serde o).run d).2 .bak c) ↔
          Holds serde d .bak c ∨
            ((o.resets = true → c = .default) ∧ (o.writesBack = true → c.isFinite = true))) ∧
      ∀ (resolved : Bool) (o : SaveOutcomes),
        (Holds serde ((save serde resolved o c').run d).2 .config c ∨
            Holds serde ((save serde resolved o c').run d).2 .config c') ↔
          (resolved = true → o.completes = true → c'.isFinite = true) := by
  refine ⟨fun o => ?_, fun resolved o => save_holds_iff hdata hgood.2 hc' resolved o⟩
  have hbak : Holds serde ((load serde o).run d).2 .bak c ↔ Holds serde d .bak c := by
    rw [Holds, Holds, (load_files hdata hgood hc.written hdefault.written o).2]
  rw [load_holds_iff hdata hgood hc hdefault o, hbak]
  exact or_comm

/-! ### The default configuration over a good one -/

/-- The bytes of an ASCII text. -/
def ascii (text : String) : Bytes := text.toList.map Char.toUInt8

/-- The text of the default configuration, but for one field. -/
def prettyText (linkEnabled : String) : Bytes :=
  [10].intercalate <| [
    "\x7b", "  \"schemaVersion\": 1,", "  \"linkMode\": \"inverseBidirectional\",",
    "  \"linkEnabled\": " ++ linkEnabled ++ ",", "  \"startupAuthority\": \"vrchat\",",
    "  \"resumePolicy\": \"syncFromVrchat\",", "  \"theme\": \"system\",",
    "  \"reducedMotion\": false,",
    "  \"vrchat\": \x7b", "    \"host\": \"127.0.0.1\",", "    \"sendPort\": 9000,",
    "    \"receivePort\": 9001,", "    \"commandTimeoutMs\": 1500", "  \x7d,",
    "  \"discord\": \x7b", "    \"connectAutomatically\": true", "  \x7d,",
    "  \"startup\": \x7b", "    \"runWithWindows\": false,", "    \"startMinimized\": true",
    "  \x7d,",
    "  \"logging\": \x7b", "    \"level\": \"warning\",", "    \"fileLogging\": false", "  \x7d,",
    "  \"accessibility\": \x7b", "    \"textScale\": 1.0", "  \x7d,",
    "  \"language\": \"en\"", "\x7d"].map ascii

/-- A configuration with one field edited by hand. -/
def pausedConfig : AppConfig := { AppConfig.default with linkEnabled := false }

/-- The file in which it is. -/
def pausedText : Bytes := ascii "\x7b\"linkEnabled\":false\x7d"

/-- `serde_json` on the files of the examples. -/
def exampleSerde : SerdeJson where
  fromSlice data :=
    if data = pausedText ∨ data = prettyText "false" then some pausedConfig
    else if data = prettyText "true" then some .default
    else none
  toVecPretty c := .ok (prettyText (if c.linkEnabled then "true" else "false"))

/-- `config.json` holds the edited text, and there is no other file. -/
def pausedDisk : Disk
  | .config => some pausedText
  | .tmp | .bak => none

/-- Nothing goes wrong. -/
def SaveOutcomes.allOk : SaveOutcomes where
  createDirAll := .ok
  create := .ok
  write := .ok
  written := 0
  syncAll := .ok
  rename := .ok

/-- Nothing goes wrong. -/
def LoadOutcomes.allOk : LoadOutcomes where
  resolved := true
  pathExists := .ok
  metadata := .ok
  read := .ok
  backup := .ok
  save := .allOk
  fallback := .allOk

/-- One error while reading, and nothing else goes wrong: the default configuration is saved over a
good one, and no backup is made. -/
theorem read_error_resets_config :
    let o := { LoadOutcomes.allOk with read := .err (.io "The file is in use. (os error 32)") }
    exampleSerde.Accepts pausedText pausedConfig ∧ pausedDisk .config = some pausedText ∧
      ((load exampleSerde o).run pausedDisk).2 .config = some (prettyText "true") ∧
      ¬ Holds exampleSerde ((load exampleSerde o).run pausedDisk).2 .config pausedConfig ∧
      ¬ Holds exampleSerde ((load exampleSerde o).run pausedDisk).2 .bak pausedConfig := by
  decide +kernel

theorem faithful_paused : exampleSerde.Faithful pausedConfig (prettyText "false") where
  written := rfl
  object := by decide +kernel
  finite _ := by simp only [exampleSerde, or_true, if_true]
  null h := by cases h

theorem faithful_default : exampleSerde.Faithful .default (prettyText "true") where
  written := rfl
  object := by decide +kernel
  finite _ := by decide +kernel
  null h := by cases h

theorem accepts_paused : exampleSerde.Accepts pausedText pausedConfig := by decide +kernel

/-- Where nothing goes wrong, the edited configuration is kept, and another can be saved. -/
theorem good_config_kept_iff_all_ok :
    (Holds exampleSerde ((load exampleSerde .allOk).run pausedDisk).2 .config pausedConfig ∨
        Holds exampleSerde ((load exampleSerde .allOk).run pausedDisk).2 .bak pausedConfig) ∧
      (Holds exampleSerde ((save exampleSerde true .allOk .default).run pausedDisk).2 .config
          pausedConfig ∨
        Holds exampleSerde ((save exampleSerde true .allOk .default).run pausedDisk).2 .config
          .default) := by
  have hdata : pausedDisk .config = some pausedText := rfl
  obtain ⟨hload, hsave⟩ :=
    good_config_kept_iff hdata accepts_paused faithful_paused faithful_default faithful_default
  have hresets : LoadOutcomes.allOk.resets = false := by decide
  have hfinite : pausedConfig.isFinite = true := by decide
  constructor
  · refine (hload .allOk).mpr (.inr ⟨fun h => ?_, fun _ => hfinite⟩)
    rw [hresets] at h
    cases h
  · exact (hsave true .allOk).mpr fun _ _ => AppConfig.isFinite_default

end VoxShift.Storage
