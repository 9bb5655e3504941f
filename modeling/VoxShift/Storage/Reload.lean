import VoxShift.Storage.Kept

/-!
# Loading twice

`load_from` writes back what it has read, so the next start of the program reads
the output of `serde_json` and not what the user wrote. The two need not be
accepted alike: the text may have grown past the size limit, and a number too
large for an `f32` comes back as `null`.

## What is proved

* `loadFrom_allOk` — where no call fails, `load_from` picks a configuration and
  saves it, whatever `config.json` holds.
* `reload_iff` — a second load finds what the first one returned exactly when its
  text scale is finite and its text is within the size limit.
* `infinite_scale_is_reset` — an accepted text scale can be lost at the second
  load, and the whole configuration with it.
-/

namespace VoxShift.Storage

open VoxShift.Core VoxShift.Theory

variable {serde : SerdeJson} {c : AppConfig} {json : Bytes}

/-- The directory after `backup_corrupt` has moved these contents. -/
def Disk.moved (d : Disk) (data : Bytes) : Disk := (d.put .bak (some data)).put .config none

/-- What `load_from` takes from `config.json`, and the directory it then saves to. -/
def loaded (serde : SerdeJson) (d : Disk) : AppConfig × Disk :=
  match d .config with
  | none => (.default, d)
  | some data =>
    if MAX_CONFIG_SIZE_BYTES < data.length then (.default, d.moved data)
    else match serde.parse data with
      | some cfg => (cfg, d)
      | none => (.default, d.moved data)

theorem loaded_of_accepts {d : Disk} {data : Bytes} (hdata : d .config = some data)
    (hgood : serde.Accepts data c) : loaded serde d = (c, d) := by
  obtain ⟨hlen, hparse⟩ := hgood
  simp only [loaded, hdata, if_neg (Nat.not_lt.mpr hlen), hparse]

theorem backupCorrupt_ok {d : Disk} {data : Bytes} (hdata : d .config = some data) :
    (backupCorrupt .ok).run d = (.done (), d.moved data) := by
  simp only [backupCorrupt, renameFile, hdata]
  rfl

/-- **Where no call fails**, `load_from` picks a configuration, saves it and returns it. -/
theorem loadFrom_allOk (serde : SerdeJson) (d : Disk) :
    (loadFrom serde .allOk).run d =
      ((saveTo serde .allOk (loaded serde d).1 >>= fun _ => pure (loaded serde d).1) :
        Fs AppConfig).run (loaded serde d).2 := by
  unfold loaded
  cases hdata : d .config with
  | none =>
    have hexists : (pathExists .ok).run d = (.done false, d) := by simp [pathExists, hdata]
    rw [loadFrom, Prog.run_bind, show LoadOutcomes.allOk.pathExists = .ok from rfl, hexists]
    rfl
  | some data =>
    have hexists : (pathExists .ok).run d = (.done true, d) := by simp [pathExists, hdata]
    have hconfig : d.configData = .ok data := by simp [Disk.configData, hdata]
    have hlength : d.configLen = .ok data.length := by
      rw [Disk.configLen, hconfig]
      rfl
    rw [loadFrom, Prog.run_bind, show LoadOutcomes.allOk.pathExists = .ok from rfl, hexists]
    simp only [if_true]
    rw [Prog.run_bind, metadataLen, Prog.run_ask _ hlength]
    simp only [show LoadOutcomes.allOk.metadata = .ok from rfl]
    split_ifs with hlen
    · rw [Prog.run_bind, show LoadOutcomes.allOk.backup = .ok from rfl, backupCorrupt_ok hdata]
      rfl
    · rw [Prog.run_bind, readFile, Prog.run_ask _ hconfig]
      simp only [show LoadOutcomes.allOk.read = .ok from rfl]
      cases serde.parse data with
      | some cfg => rfl
      | none =>
        simp only
        rw [Prog.run_bind, show LoadOutcomes.allOk.backup = .ok from rfl, backupCorrupt_ok hdata]
        rfl

theorem saveTo_allOk (hjson : serde.toVecPretty c = .ok json) (d : Disk) :
    let r := ((saveTo serde .allOk c >>= fun _ => pure c) : Fs AppConfig).run d
    r.1 = .done c ∧ r.2 .config = some json ∧ r.2 .bak = d .bak := by
  obtain ⟨hexit, -⟩ := saveTo_exit hjson .allOk d
  obtain ⟨-, hconfig, hbak⟩ := saveTo_then hjson .allOk d c
  refine ⟨?_, hconfig, hbak⟩
  rw [Prog.run_bind]
  generalize (saveTo serde .allOk c).run d = reached at hexit ⊢
  obtain ⟨exit, d'⟩ := reached
  obtain rfl : exit = .done () := hexit
  rfl

theorem loadFrom_done {d : Disk} (hload : ((loadFrom serde .allOk).run d).1 = .done c)
    (hjson : serde.toVecPretty c = .ok json) :
    ((loadFrom serde .allOk).run d).2 .config = some json := by
  rw [loadFrom_allOk] at hload ⊢
  have hc : (loaded serde d).1 = c := by
    rw [Prog.run_bind] at hload
    generalize (saveTo serde .allOk (loaded serde d).1).run (loaded serde d).2 = reached at hload
    obtain ⟨_ | e | _, d'⟩ := reached
    · exact Exit.done.inj hload
    · cases hload
    · cases hload
  rw [hc]
  exact (saveTo_allOk hjson _).2.1

/-- A load finds the configuration `c`: it parses `config.json` to `c`, returns `c`, and makes no
backup. -/
structure Reloads (serde : SerdeJson) (d : Disk) (c : AppConfig) : Prop where
  parses : ∃ data, d .config = some data ∧ serde.Accepts data c
  same : ((loadFrom serde .allOk).run d).1 = .done c
  backup : ((loadFrom serde .allOk).run d).2 .bak = d .bak

/-- **Loading twice.** Whatever the directory holds: where no call fails and `load_from` returns
`c`, an immediately following `load_from` parses the file, returns `c` and makes no backup if and
only if the text scale of `c` is finite and the text of `c` is within the size limit. -/
theorem reload_iff {serde : SerdeJson} {d : Disk} {c : AppConfig} {json : Bytes}
    (hload : ((loadFrom serde .allOk).run d).1 = .done c) (hc : serde.Faithful c json) :
    Reloads serde ((loadFrom serde .allOk).run d).2 c ↔
      c.isFinite = true ∧ json.length ≤ MAX_CONFIG_SIZE_BYTES := by
  have hconfig := loadFrom_done hload hc.written
  have hparse := hc.parse
  generalize ((loadFrom serde .allOk).run d).2 = d' at hconfig ⊢
  constructor
  · rintro ⟨⟨data, hdata, hlen, hdone⟩, -, -⟩
    obtain rfl : json = data := Option.some.inj (hconfig.symm.trans hdata)
    rw [hparse] at hdone
    cases hfinite : c.isFinite with
    | true => exact ⟨rfl, hlen⟩
    | false => simp [hfinite] at hdone
  · rintro ⟨hfinite, hlen⟩
    have hgood : serde.Accepts json c := ⟨hlen, by rw [hparse, if_pos hfinite]⟩
    obtain ⟨hsame, -, hbak⟩ := saveTo_allOk hc.written d'
    refine ⟨⟨json, hconfig, hgood⟩, ?_, ?_⟩
    · rw [loadFrom_allOk, loaded_of_accepts hconfig hgood]
      exact hsame
    · rw [loadFrom_allOk, loaded_of_accepts hconfig hgood]
      exact hbak

/-! ### An infinite text scale -/

/-- The text of the default configuration with another text scale in place of `1.0`. -/
def scaleText (scale : String) : Bytes :=
  (prettyText "true").take 556 ++ ascii scale ++ (prettyText "true").drop 559

example : scaleText "1.0" = prettyText "true" := by decide +kernel

/-- `1e39` is too large for an `f32`. -/
def hugeText : Bytes := ascii "\x7b\"accessibility\":\x7b\"textScale\":1e39\x7d\x7d"

/-- What it is read as: the scale is `f32::INFINITY`. -/
def hugeConfig : AppConfig := { AppConfig.default with accessibility := ⟨0x7F800000#32⟩ }

/-- `serde_json` on the files of this example. -/
def scaleSerde : SerdeJson where
  fromSlice data :=
    if data = hugeText then some hugeConfig
    else if data = prettyText "true" then some .default
    else none
  toVecPretty cfg := .ok (scaleText (if cfg.isFinite then "1.0" else "null"))

/-- `config.json` holds that text, and there is no other file. -/
def hugeDisk : Disk
  | .config => some hugeText
  | .tmp | .bak => none

theorem faithful_huge : scaleSerde.Faithful hugeConfig (scaleText "null") where
  written := rfl
  object := by decide +kernel
  finite h := by cases h
  null _ := by decide +kernel

/-- The first load accepts the file; the second one moves it to the backup and returns the
defaults. -/
theorem infinite_scale_is_reset :
    let d := ((loadFrom scaleSerde .allOk).run hugeDisk).2
    scaleSerde.Faithful hugeConfig (scaleText "null") ∧
      ((loadFrom scaleSerde .allOk).run hugeDisk).1 = .done hugeConfig ∧
      ((loadFrom scaleSerde .allOk).run d).1 = .done .default ∧ d .bak = none ∧
      ((loadFrom scaleSerde .allOk).run d).2 .bak = some (scaleText "null") := by
  refine ⟨faithful_huge, ?_⟩
  decide +kernel

/-- The edited configuration with a finite scale is found again. -/
theorem reload_iff_paused :
    Reloads exampleSerde ((loadFrom exampleSerde .allOk).run pausedDisk).2 pausedConfig := by
  have hdata : pausedDisk .config = some pausedText := rfl
  have hload : ((loadFrom exampleSerde .allOk).run pausedDisk).1 = .done pausedConfig := by
    rw [loadFrom_allOk, loaded_of_accepts hdata accepts_paused]
    exact (saveTo_allOk faithful_paused.written _).1
  exact (reload_iff hload faithful_paused).mpr ⟨by decide, by decide +kernel⟩

end VoxShift.Storage
