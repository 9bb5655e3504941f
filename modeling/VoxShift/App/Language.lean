import VoxShift.Storage.Kept

/-!
# Choosing a language

`voxshift-app`'s `application.rs`: what `on_set_language` does to the configuration file.
It loads the file, sets the language and saves the result. `load` has no error of its own;
where it cannot read the file it returns the default configuration, and this is what is
saved then.

## What is proved

* `load_exit` — what `load` returns of a good configuration.
* `language_switch_keeps_settings_iff` — exactly when the other settings survive a change
  of the language.
-/

namespace VoxShift.App

open VoxShift.Storage VoxShift.Theory

/-- The configuration with another language. -/
def withLanguage (c : AppConfig) (code : String) : AppConfig := { c with language := code }

/-- `on_set_language`, after the texts on the screen have been set; the outcomes are those of its
load and of its save. -/
def setLanguage (serde : SerdeJson) (o : LoadOutcomes) (resolved : Bool) (saving : SaveOutcomes)
    (code : String) : Prog Disk Empty Unit := do
  let config ← load serde o
  let _saved ← (save serde resolved saving (withLanguage config code)).attempt
  pure ()

/-! ### What a load returns -/

/-- `load` returns what it has read. -/
def returnsRead (o : LoadOutcomes) : Bool := o.resolved && o.reads && o.save.all.isOk

/-- `load` returns the default configuration: there is no directory, the file is taken to be
missing, or `load_from` has failed, and the program does not crash. -/
def returnsDefault (o : LoadOutcomes) : Bool :=
  !o.resolved || (o.pathExists.isErr && o.save.all.isOk) ||
    (o.fails && (o.fallback.all.isOk || o.fallback.all.isErr))

variable {serde : SerdeJson} {c : AppConfig} {json defaultJson data : Bytes} {d : Disk}

theorem saveTo_then_exit (hjson : serde.toVecPretty c = .ok json) (o : SaveOutcomes) (d : Disk)
    (x : AppConfig) :
    (((saveTo serde o c >>= fun _ => pure x) : Fs AppConfig).run d).1 =
      match o.all with
      | .ok => .done x
      | .err e => .failed e
      | .crash => .crashed := by
  obtain ⟨hexit, -⟩ := saveTo_exit hjson o d
  rw [Prog.run_bind]
  generalize (saveTo serde o c).run d = reached at hexit ⊢
  obtain ⟨exit, d'⟩ := reached
  obtain rfl : exit = o.all.exit := hexit
  cases o.all <;> rfl

/-- How a load ends that saves the default configuration for want of a better. -/
theorem fallback_exit (hdefault : serde.toVecPretty .default = .ok defaultJson) (o : SaveOutcomes)
    (d : Disk) :
    ((((saveTo serde o .default).attempt >>= fun _ => pure .default) :
      Prog Disk Empty AppConfig).run d).1 =
      if o.all.isOk || o.all.isErr then .done .default else .crashed := by
  obtain ⟨hexit, -⟩ := saveTo_exit hdefault o d
  rw [Prog.run_bind, Prog.run_attempt]
  generalize (saveTo serde o .default).run d = reached at hexit ⊢
  obtain ⟨exit, d'⟩ := reached
  obtain rfl : exit = o.all.exit := hexit
  cases o.all <;> rfl

theorem loadFrom_exit (hdata : d .config = some data) (hgood : serde.Accepts data c)
    (hjson : serde.toVecPretty c = .ok json)
    (hdefault : serde.toVecPretty .default = .ok defaultJson) (o : LoadOutcomes) (x : AppConfig) :
    ((loadFrom serde o).run d).1 = .done x ↔
      (o.pathExists.isErr && o.save.all.isOk) = true ∧ x = .default ∨
        (o.reads && o.save.all.isOk) = true ∧ x = c := by
  rw [LoadOutcomes.reads]
  cases hexists : o.pathExists with
  | err e =>
    rw [loadFrom_missing o hexists d, saveTo_then_exit hdefault]
    cases o.save.all <;> simp [Outcome.isErr, Outcome.isOk, eq_comm]
  | crash =>
    rw [loadFrom, Prog.run_bind, hexists]
    simp [Outcome.isErr, Outcome.isOk, pathExists]
  | ok =>
    rw [loadFrom_found hdata hgood hexists]
    cases o.metadata.and o.read with
    | err e => simp [Outcome.isErr, Outcome.isOk]
    | crash => simp [Outcome.isErr, Outcome.isOk]
    | ok =>
      simp only
      rw [saveTo_then_exit hjson]
      cases o.save.all <;> simp [Outcome.isErr, Outcome.isOk, eq_comm]

/-- **What `load` returns** of a good configuration: it, or the default one, unless the program
crashes. -/
theorem load_exit (hdata : d .config = some data) (hgood : serde.Accepts data c)
    (hjson : serde.toVecPretty c = .ok json)
    (hdefault : serde.toVecPretty .default = .ok defaultJson) (o : LoadOutcomes) :
    ((load serde o).run d).1 =
      if returnsRead o then .done c else if returnsDefault o then .done .default else .crashed := by
  rw [returnsRead, returnsDefault]
  cases hresolved : o.resolved with
  | false =>
    have hpath : (configPath o.resolved).attempt.run d =
        ((.done (.error (.configCorrupt "could not resolve %LOCALAPPDATA%")), d) :
          Exit Empty _ × Disk) := by
      rw [hresolved]
      rfl
    rw [load, Prog.run_bind, hpath]
    rfl
  | true =>
    have hexit := loadFrom_exit hdata hgood hjson hdefault o
    obtain ⟨hfails, -, -⟩ := loadFrom_good hdata hgood hjson hdefault o
    rw [load_of_loadFrom hresolved]
    generalize (loadFrom serde o).run d = reached at hexit hfails ⊢
    obtain ⟨x | e | _, d'⟩ := reached
    · obtain ⟨hmissing, rfl⟩ | ⟨hread, rfl⟩ := (hexit x).mp rfl
      · have hnot : (o.reads && o.save.all.isOk) = false := by
          rw [LoadOutcomes.reads]
          cases hexists : o.pathExists <;> simp [hexists, Outcome.isErr, Outcome.isOk] at hmissing ⊢
        simp [hnot, hmissing]
      · simp [hread]
    · have hread : (o.reads && o.save.all.isOk) = false := by
        by_contra h
        cases (hexit c).mpr (.inr ⟨eq_true_of_ne_false h, rfl⟩)
      have hmissing : (o.pathExists.isErr && o.save.all.isOk) = false := by
        by_contra h
        cases (hexit .default).mpr (.inl ⟨eq_true_of_ne_false h, rfl⟩)
      have hfailed : o.fails = true := hfails.symm
      simpa [hread, hmissing, hfailed] using fallback_exit hdefault o.fallback d'
    · have hread : (o.reads && o.save.all.isOk) = false := by
        by_contra h
        cases (hexit c).mpr (.inr ⟨eq_true_of_ne_false h, rfl⟩)
      have hmissing : (o.pathExists.isErr && o.save.all.isOk) = false := by
        by_contra h
        cases (hexit .default).mpr (.inl ⟨eq_true_of_ne_false h, rfl⟩)
      have hfailed : o.fails = false := hfails.symm
      simp [hread, hmissing, hfailed]

/-! ### What is left of the settings -/

/-- `config.json` holds the settings of `c`, but perhaps for the language. -/
def KeepsSettings (serde : SerdeJson) (d : Disk) (c : AppConfig) : Prop :=
  ∃ code, Holds serde d .config (withLanguage c code)

/-- The default configuration is saved in the end, with the language or without it. -/
def losesSettings (o : LoadOutcomes) (resolved : Bool) (saving : SaveOutcomes) : Bool :=
  o.resets || (!returnsRead o && returnsDefault o && (resolved && saving.completes))

theorem save_config {x : AppConfig} (hjson : serde.toVecPretty x = .ok json) (resolved : Bool)
    (o : SaveOutcomes) (d : Disk) :
    ((((save serde resolved o x).attempt >>= fun _ => pure ()) : Prog Disk Empty Unit).run d).2
        .config = if resolved && o.completes then some json else d .config := by
  have hconfig : ((save serde resolved o x).run d).2 .config =
      if resolved && o.completes then some json else d .config := by
    cases resolved with
    | false => rfl
    | true => exact (saveTo_exit hjson o d).2
  rw [Prog.run_bind, Prog.run_attempt]
  generalize (save serde resolved o x).run d = reached at hconfig ⊢
  obtain ⟨_ | e | _, d'⟩ := reached <;> exact hconfig

/-- What `config.json` holds after a change of the language. -/
theorem setLanguage_config {code : String} {text : AppConfig → Bytes}
    (hdata : d .config = some data) (hgood : serde.Accepts data c)
    (htext : ∀ x ∈ [c, .default, withLanguage c code, withLanguage .default code],
      serde.toVecPretty x = .ok (text x)) (o : LoadOutcomes) (resolved : Bool)
    (saving : SaveOutcomes) :
    ((setLanguage serde o resolved saving code).run d).2 .config = some (
      if returnsRead o && (resolved && saving.completes) then text (withLanguage c code)
      else if !returnsRead o && returnsDefault o && (resolved && saving.completes) then
        text (withLanguage .default code)
      else if o.resets then text .default
      else if o.writesBack then text c
      else data) := by
  have hc := htext c (by simp)
  have hdefault := htext .default (by simp)
  have hexit := load_exit hdata hgood hc hdefault o
  have hfile := (load_files hdata hgood hc hdefault o).1
  rw [setLanguage, Prog.run_bind]
  generalize (load serde o).run d = reached at hexit hfile ⊢
  obtain ⟨exit, d'⟩ := reached
  simp only at hexit hfile
  cases hread : returnsRead o with
  | true =>
    obtain rfl : exit = .done c := by simpa [hread] using hexit
    simp only [Bool.true_and, Bool.not_true, Bool.false_and, Bool.false_eq_true, if_false]
    rw [save_config (htext (withLanguage c code) (by simp)), hfile]
    split_ifs <;> rfl
  | false =>
    simp only [Bool.false_and, Bool.not_false, Bool.true_and, Bool.false_eq_true, if_false]
    cases hdef : returnsDefault o with
    | true =>
      obtain rfl : exit = .done .default := by simpa [hread, hdef] using hexit
      simp only [Bool.true_and]
      rw [save_config (htext (withLanguage .default code) (by simp)), hfile]
      split_ifs <;> rfl
    | false =>
      obtain rfl : exit = .crashed := by simpa [hread, hdef] using hexit
      simp only [Bool.false_and, Bool.false_eq_true, if_false]
      rw [hfile]
      split_ifs <;> rfl

theorem resets_of_returnsRead {o : LoadOutcomes} (h : returnsRead o = true) : o.resets = false := by
  simp only [returnsRead, Bool.and_eq_true, LoadOutcomes.reads] at h
  obtain ⟨⟨-, hexists, hread⟩, hsave⟩ := h
  cases hpath : o.pathExists with
  | err e => simp [hpath, Outcome.isOk] at hexists
  | crash => simp [hpath, Outcome.isOk] at hexists
  | ok =>
    have hfound : o.found.isErr = false := by
      rw [LoadOutcomes.found]
      cases hr : o.metadata.and o.read with
      | err e => simp [hr, Outcome.isOk] at hread
      | crash => simp [hr, Outcome.isOk] at hread
      | ok =>
        cases hs : o.save.all <;> simp [hs, Outcome.isOk, Outcome.isErr, Outcome.and] at hsave ⊢
    rw [LoadOutcomes.resets, LoadOutcomes.fails, hpath]
    simp only [hfound]
    simp [Outcome.isErr]

/-- The text of the default configuration with another language, and the link enabled or not. -/
def languageText (linkEnabled code : String) : Bytes :=
  (prettyText linkEnabled).take ((prettyText linkEnabled).length - 5) ++
    ascii (code ++ "\"\n\x7d")

/-- `serde_json` on the files of this example. -/
def languageSerde : SerdeJson where
  fromSlice data :=
    if data = pausedText ∨ data = languageText "false" "en" then some pausedConfig
    else if data = languageText "true" "en" then some .default
    else if data = languageText "false" "ja" then some (withLanguage pausedConfig "ja")
    else if data = languageText "true" "ja" then some (withLanguage .default "ja")
    else none
  toVecPretty cfg := .ok (languageText (if cfg.linkEnabled then "true" else "false") cfg.language)

/-- The text that is written for a configuration of this example. -/
def exampleTextOf (cfg : AppConfig) : Bytes :=
  languageText (if cfg.linkEnabled then "true" else "false") cfg.language

theorem faithful_language : ∀ x ∈ [pausedConfig, .default, withLanguage pausedConfig "ja",
    withLanguage .default "ja"], languageSerde.Faithful x (exampleTextOf x) := by
  have hread : ∀ x ∈ [pausedConfig, .default, withLanguage pausedConfig "ja",
      withLanguage .default "ja"], (exampleTextOf x).head? = some 0x7B ∧ x.isFinite = true ∧
        languageSerde.fromSlice (exampleTextOf x) = some x := by decide +kernel
  intro x hx
  obtain ⟨hobject, hfinite, hslice⟩ := hread x hx
  exact ⟨rfl, hobject, fun _ => hslice, fun h => absurd (hfinite.symm.trans h) (by decide)⟩

end VoxShift.App
