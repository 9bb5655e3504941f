import VoxShift.Theory.Record
import VoxShift.Storage.Reload

/-!
# The configuration as a document

The attributes of `serde` on `AppConfig` and the types it is made of: the names of the
fields and of the variants, and `#[serde(default)]`, by which a missing field takes its
value from the default configuration.

## The model

* What `serde_json` reads and writes is a document (`Theory/Record`); the text of the
  document is a parameter (`SerdeText`), and so are its numbers (`Numbers`).
* A field that `#[serde(default)]` fills in is set beforehand.

## What is proved

* `document_round_trip` — what is read is in range, and a configuration is read back as
  it was written exactly when it is in range and finite.
* `old_file_is_completed` — a file with some of the fields is loaded, completed and kept.
-/

namespace VoxShift.Storage

open VoxShift.Core VoxShift.Theory

/-- The numbers of `serde_json`: a number is kept as its text has it. -/
structure Numbers (ν : Type) where
  /-- The unsigned integer that a number is, where it is one. -/
  toU64 : ν → Option ℕ
  /-- The `f32` next to a number, where it is in the range of an `f64`. -/
  toF32 : ν → Option F32
  ofU64 : ℕ → ν
  ofF32 : F32 → ν

namespace Numbers

variable {ν : Type}

/-- `serde_json` reads the numbers that it writes. -/
structure Lawful (num : Numbers ν) : Prop where
  toU64_ofU64 : ∀ n < 18446744073709551616, num.toU64 (num.ofU64 n) = some n
  toF32_ofF32 : ∀ x, F32.isFinite x = true → num.toF32 (num.ofF32 x) = some x

/-- An unsigned integer below a bound. -/
def unsigned (num : Numbers ν) (bound : ℕ) : Codec ν ℕ where
  write n := .num (num.ofU64 n)
  read
    | .num x => (num.toU64 x).filter (· < bound)
    | _ => none

/-- `u16`. -/
def u16 (num : Numbers ν) : Codec ν ℕ := num.unsigned 65536

/-- `u32`. -/
def u32 (num : Numbers ν) : Codec ν ℕ := num.unsigned 4294967296

/-- `u64`. -/
def u64 (num : Numbers ν) : Codec ν ℕ := num.unsigned 18446744073709551616

/-- `f32`; what is not finite is written as `null`. -/
def f32 (num : Numbers ν) : Codec ν F32 where
  write x := if F32.isFinite x then .num (num.ofF32 x) else .null
  read
    | .num x => num.toF32 x
    | _ => none

variable {num : Numbers ν}

theorem yields_unsigned (bound : ℕ) : (num.unsigned bound).Yields (· < bound) := by
  intro d n h
  cases d with
  | num x => simpa using (Option.filter_eq_some_iff.mp h).2
  | null | bool | str | arr | obj => cases h

theorem restores_unsigned (h : num.Lawful) {bound n : ℕ} (hbound : bound ≤ 18446744073709551616) :
    (num.unsigned bound).Restores n ↔ n < bound := by
  refine ⟨(yields_unsigned bound).of_restores, fun hn => ?_⟩
  change (num.toU64 (num.ofU64 n)).filter (· < bound) = some n
  rw [h.toU64_ofU64 n (Nat.lt_of_lt_of_le hn hbound), Option.filter_some,
    if_pos (decide_eq_true hn)]

theorem read_write_f32 (h : num.Lawful) (x y : F32) :
    num.f32.read (num.f32.write x) = some y ↔ F32.isFinite x = true ∧ x = y := by
  simp only [f32]
  split_ifs with hx
  · simp [h.toF32_ofF32 x hx, hx]
  · simp [hx]

end Numbers

variable {ν : Type}

/-! ### The fields -/

/-- The name of a `Theme`. -/
def Theme.name : Theme → String
  | .dark => "dark"
  | .light => "light"
  | .system => "system"

/-- The name of a `LinkMode`. -/
def linkModeName : LinkMode → String
  | .inverseBidirectional => "inverseBidirectional"
  | .vrchatMaster => "vrchatMaster"

/-- The name of a `StartupAuthority`. -/
def startupAuthorityName : StartupAuthority → String
  | .vrchat => "vrchat"
  | .discord => "discord"
  | .none => "none"

/-- The name of a `ResumePolicy`. -/
def resumePolicyName : ResumePolicy → String
  | .keepState => "keepState"
  | .syncFromVrchat => "syncFromVrchat"

/-- `Theme`. -/
def themeCodec : Codec ν Theme := .variants Theme.name [.dark, .light, .system]

/-- `LinkMode`. -/
def linkModeCodec : Codec ν LinkMode :=
  .variants linkModeName [.inverseBidirectional, .vrchatMaster]

/-- `StartupAuthority`. -/
def startupAuthorityCodec : Codec ν StartupAuthority :=
  .variants startupAuthorityName [.vrchat, .discord, .none]

/-- `ResumePolicy`. -/
def resumePolicyCodec : Codec ν ResumePolicy :=
  .variants resumePolicyName [.keepState, .syncFromVrchat]

theorem restores_theme (a : Theme) : (themeCodec : Codec ν Theme).Restores a :=
  Codec.restores_variants (by cases a <;> decide) (by cases a <;> decide)

theorem restores_linkMode (a : LinkMode) : (linkModeCodec : Codec ν LinkMode).Restores a :=
  Codec.restores_variants (by cases a <;> decide) (by cases a <;> decide)

theorem restores_startupAuthority (a : StartupAuthority) :
    (startupAuthorityCodec : Codec ν StartupAuthority).Restores a :=
  Codec.restores_variants (by cases a <;> decide) (by cases a <;> decide)

theorem restores_resumePolicy (a : ResumePolicy) :
    (resumePolicyCodec : Codec ν ResumePolicy).Restores a :=
  Codec.restores_variants (by cases a <;> decide) (by cases a <;> decide)

/-- `VrChatConfig`. -/
def VrChatConfig.record (num : Numbers ν) : Record ν VrChatConfig where
  fallback := .default
  members := [
    ⟨"host", .str, (·.host), fun a c => { c with host := a }⟩,
    ⟨"sendPort", num.u16, (·.sendPort), fun a c => { c with sendPort := a }⟩,
    ⟨"receivePort", num.u16, (·.receivePort), fun a c => { c with receivePort := a }⟩,
    ⟨"commandTimeoutMs", num.u64, (·.commandTimeoutMs),
      fun a c => { c with commandTimeoutMs := a }⟩]
  ext := by
    rintro ⟨⟩ ⟨⟩ h
    simpa using h

/-- `DiscordConfig`. -/
def DiscordConfig.record : Record ν DiscordConfig where
  fallback := .default
  members := [
    ⟨"connectAutomatically", .bool, (·.connectAutomatically),
      fun a c => { c with connectAutomatically := a }⟩]
  ext := by
    rintro ⟨⟩ ⟨⟩ h
    simpa using h

/-- `StartupConfig`. -/
def StartupConfig.record : Record ν StartupConfig where
  fallback := .default
  members := [
    ⟨"runWithWindows", .bool, (·.runWithWindows), fun a c => { c with runWithWindows := a }⟩,
    ⟨"startMinimized", .bool, (·.startMinimized), fun a c => { c with startMinimized := a }⟩]
  ext := by
    rintro ⟨⟩ ⟨⟩ h
    simpa using h

/-- `LoggingConfig`. -/
def LoggingConfig.record : Record ν LoggingConfig where
  fallback := .default
  members := [
    ⟨"level", .str, (·.level), fun a c => { c with level := a }⟩,
    ⟨"fileLogging", .bool, (·.fileLogging), fun a c => { c with fileLogging := a }⟩]
  ext := by
    rintro ⟨⟩ ⟨⟩ h
    simpa using h

/-- `AccessibilityConfig`. -/
def AccessibilityConfig.record (num : Numbers ν) : Record ν AccessibilityConfig where
  fallback := .default
  members := [
    ⟨"textScale", num.f32, (·.textScale), fun a c => { c with textScale := a }⟩]
  ext := by
    rintro ⟨⟩ ⟨⟩ h
    simpa using h

/-- `AppConfig`. -/
def AppConfig.record (num : Numbers ν) : Record ν AppConfig where
  fallback := .default
  members := [
    ⟨"schemaVersion", num.u32, (·.schemaVersion), fun a c => { c with schemaVersion := a }⟩,
    ⟨"linkMode", linkModeCodec, (·.linkMode), fun a c => { c with linkMode := a }⟩,
    ⟨"linkEnabled", .bool, (·.linkEnabled), fun a c => { c with linkEnabled := a }⟩,
    ⟨"startupAuthority", startupAuthorityCodec, (·.startupAuthority),
      fun a c => { c with startupAuthority := a }⟩,
    ⟨"resumePolicy", resumePolicyCodec, (·.resumePolicy),
      fun a c => { c with resumePolicy := a }⟩,
    ⟨"theme", themeCodec, (·.theme), fun a c => { c with theme := a }⟩,
    ⟨"reducedMotion", .bool, (·.reducedMotion), fun a c => { c with reducedMotion := a }⟩,
    ⟨"vrchat", (VrChatConfig.record num).codec, (·.vrchat), fun a c => { c with vrchat := a }⟩,
    ⟨"discord", DiscordConfig.record.codec, (·.discord), fun a c => { c with discord := a }⟩,
    ⟨"startup", StartupConfig.record.codec, (·.startup), fun a c => { c with startup := a }⟩,
    ⟨"logging", LoggingConfig.record.codec, (·.logging), fun a c => { c with logging := a }⟩,
    ⟨"accessibility", (AccessibilityConfig.record num).codec, (·.accessibility),
      fun a c => { c with accessibility := a }⟩,
    ⟨"language", .str, (·.language), fun a c => { c with language := a }⟩]
  ext := by
    rintro ⟨⟩ ⟨⟩ h
    simpa using h

/-! ### What is in range -/

/-- The numbers fit their types. -/
structure VrChatConfig.InRange (c : VrChatConfig) : Prop where
  sendPort : c.sendPort < 65536
  receivePort : c.receivePort < 65536
  commandTimeoutMs : c.commandTimeoutMs < 18446744073709551616

/-- The numbers fit their types. -/
structure AppConfig.InRange (c : AppConfig) : Prop where
  schemaVersion : c.schemaVersion < 4294967296
  vrchat : c.vrchat.InRange

theorem VrChatConfig.inRange_default : VrChatConfig.default.InRange :=
  ⟨by decide, by decide, by decide⟩

theorem AppConfig.inRange_default : AppConfig.default.InRange :=
  ⟨by decide, VrChatConfig.inRange_default⟩

variable {num : Numbers ν}

theorem VrChatConfig.yields_inRange : (VrChatConfig.record num).codec.Yields InRange := by
  refine Record.Keeps.yields ?_ inRange_default
  simp only [Record.Keeps, record, List.forall_mem_cons, List.not_mem_nil, false_imp_iff,
    implies_true, and_true]
  refine ⟨fun d a _ s hs => ⟨hs.1, hs.2, hs.3⟩, fun d a h s hs => ⟨?_, hs.2, hs.3⟩,
    fun d a h s hs => ⟨hs.1, ?_, hs.3⟩, fun d a h s hs => ⟨hs.1, hs.2, ?_⟩⟩
  all_goals exact Numbers.yields_unsigned _ d a h

theorem AppConfig.yields_inRange : (AppConfig.record num).codec.Yields InRange := by
  refine Record.Keeps.yields ?_ inRange_default
  have hsame {β : Type} {read : Doc ν → Option β} {set : β → AppConfig → AppConfig}
      (h : ∀ a s, (set a s).schemaVersion = s.schemaVersion ∧ (set a s).vrchat = s.vrchat) :
      ∀ d a, read d = some a → ∀ s : AppConfig, s.InRange → (set a s).InRange :=
    fun d a _ s hs => ⟨(h a s).1 ▸ hs.1, (h a s).2 ▸ hs.2⟩
  simp only [Record.Keeps, record, List.forall_mem_cons, List.not_mem_nil, false_imp_iff,
    implies_true, and_true]
  refine ⟨fun d a h s hs => ⟨Numbers.yields_unsigned _ d a h, hs.2⟩, ?_, ?_, ?_, ?_, ?_, ?_,
    fun d a h s hs => ⟨hs.1, VrChatConfig.yields_inRange d a h⟩, ?_, ?_, ?_, ?_, ?_⟩
  all_goals exact hsame fun _ _ => ⟨rfl, rfl⟩

/-! ### The round trip -/

theorem VrChatConfig.restores_iff (hnum : num.Lawful) (c : VrChatConfig) :
    (VrChatConfig.record num).codec.Restores c ↔ c.InRange := by
  refine ⟨yields_inRange.of_restores, fun h => Record.restores_iff.mpr ?_⟩
  simp only [record, List.forall_mem_cons, List.not_mem_nil, false_imp_iff, implies_true, and_true]
  exact ⟨Codec.restores_str _, (Numbers.restores_unsigned hnum (by decide)).mpr h.sendPort,
    (Numbers.restores_unsigned hnum (by decide)).mpr h.receivePort,
    (Numbers.restores_unsigned hnum (by decide)).mpr h.commandTimeoutMs⟩

theorem DiscordConfig.restores (c : DiscordConfig) :
    (DiscordConfig.record : Record ν DiscordConfig).codec.Restores c :=
  Record.restores_iff.mpr (by simp [record, Codec.restores_bool])

theorem StartupConfig.restores (c : StartupConfig) :
    (StartupConfig.record : Record ν StartupConfig).codec.Restores c :=
  Record.restores_iff.mpr (by simp [record, Codec.restores_bool])

theorem LoggingConfig.restores (c : LoggingConfig) :
    (LoggingConfig.record : Record ν LoggingConfig).codec.Restores c :=
  Record.restores_iff.mpr (by simp [record, Codec.restores_bool, Codec.restores_str])

/-- A scale that is not finite is read back as no scale. -/
theorem AccessibilityConfig.read_write (hnum : num.Lawful) (c c' : AccessibilityConfig) :
    (AccessibilityConfig.record num).codec.read ((AccessibilityConfig.record num).codec.write c) =
      some c' ↔ F32.isFinite c.textScale = true ∧ c = c' := by
  obtain ⟨x⟩ := c
  obtain ⟨y⟩ := c'
  refine Record.read_write_iff.trans ?_
  simp [record, Numbers.read_write_f32 hnum]

theorem AppConfig.isFinite_of_read_write (hnum : num.Lawful) {c c' : AppConfig}
    (h : (AppConfig.record num).codec.read ((AppConfig.record num).codec.write c) = some c') :
    c.isFinite = true := by
  have hmembers := Record.read_write_iff.mp h
  simp only [record, List.forall_mem_cons] at hmembers
  obtain ⟨-, -, -, -, -, -, -, -, -, -, -, haccessibility, -⟩ := hmembers
  exact ((AccessibilityConfig.read_write hnum _ _).mp haccessibility).1

/-- A configuration is read back as it was written exactly when it is in range and finite. -/
theorem AppConfig.restores_iff (hnum : num.Lawful) (c : AppConfig) :
    (AppConfig.record num).codec.Restores c ↔ c.InRange ∧ c.isFinite = true := by
  refine ⟨fun h => ⟨yields_inRange.of_restores h, isFinite_of_read_write hnum h⟩, fun h => ?_⟩
  obtain ⟨hrange, hfinite⟩ := h
  refine Record.restores_iff.mpr ?_
  simp only [record, List.forall_mem_cons, List.not_mem_nil, false_imp_iff, implies_true, and_true]
  exact ⟨(Numbers.restores_unsigned hnum (by decide)).mpr hrange.schemaVersion,
    restores_linkMode _, Codec.restores_bool _, restores_startupAuthority _,
    restores_resumePolicy _, restores_theme _, Codec.restores_bool _,
    (VrChatConfig.restores_iff hnum _).mpr hrange.vrchat, DiscordConfig.restores _,
    StartupConfig.restores _, LoggingConfig.restores _,
    (AccessibilityConfig.read_write hnum _ _).mpr ⟨hfinite, rfl⟩, Codec.restores_str _⟩

/-- **The round trip of the configuration.** Whatever is read is in range; and a configuration is
read back as it was written exactly when its numbers are in range and finite. -/
theorem document_round_trip (hnum : num.Lawful) :
    (∀ d c, (AppConfig.record num).codec.read d = some c → c.InRange) ∧
      ∀ c : AppConfig,
        (AppConfig.record num).codec.read ((AppConfig.record num).codec.write c) = some c ↔
          c.InRange ∧ c.isFinite = true :=
  ⟨AppConfig.yields_inRange, AppConfig.restores_iff hnum⟩

/-- The numbers of the files below: unsigned integers, and fractions that are an `f32`. -/
def exampleNumbers : Numbers (ℕ ⊕ F32) where
  toU64 := Sum.getLeft?
  toF32 := Sum.getRight?
  ofU64 := .inl
  ofF32 := .inr

theorem lawful_exampleNumbers : exampleNumbers.Lawful := ⟨fun _ _ => rfl, fun _ _ => rfl⟩

/-- The default configuration is read back; one with a port that is no `u16` is not. -/
theorem document_round_trip_default :
    let codec := (AppConfig.record exampleNumbers).codec
    codec.read (codec.write .default) = some .default ∧
      codec.read (codec.write { AppConfig.default with
        vrchat := { VrChatConfig.default with sendPort := 65536 } }) ≠ some { AppConfig.default with
          vrchat := { VrChatConfig.default with sendPort := 65536 } } :=
  ⟨((document_round_trip lawful_exampleNumbers).2 _).mpr
      ⟨AppConfig.inRange_default, AppConfig.isFinite_default⟩,
    mt ((document_round_trip lawful_exampleNumbers).2 _).mp fun h =>
      absurd h.1.vrchat.sendPort (by decide)⟩

/-! ### The file -/

/-- The text of `serde_json`. -/
structure SerdeText (ν : Type) extends Numbers ν where
  parse : Bytes → Option (Doc ν)
  print : Doc ν → Bytes

namespace SerdeText

variable (t : SerdeText ν)

/-- The document of a configuration. -/
def codec : Codec ν AppConfig := (AppConfig.record t.toNumbers).codec

/-- `serde_json::from_slice` and `serde_json::to_vec_pretty` at `AppConfig`. -/
def serdeJson : SerdeJson where
  fromSlice data := (t.parse data).bind t.codec.read
  toVecPretty c := .ok (t.print (t.codec.write c))

/-- The text of `c` is `json`: an object, from which its document is read. -/
structure Prints (c : AppConfig) (json : Bytes) : Prop where
  print : t.print (t.codec.write c) = json
  object : json.head? = some 0x7B
  parse : t.parse json = some (t.codec.write c)

variable {t} {c : AppConfig} {json : Bytes}

/-- **`serde_json` is faithful** to a configuration in range whose document has a text. -/
theorem faithful (hnum : t.toNumbers.Lawful) (hc : c.InRange) (h : t.Prints c json) :
    t.serdeJson.Faithful c json where
  written := congrArg Except.ok h.print
  object := h.object
  finite hfinite := by
    simp only [serdeJson, h.parse, Option.bind_some]
    exact (AppConfig.restores_iff hnum c).mpr ⟨hc, hfinite⟩
  null hfinite := by
    simp only [serdeJson, h.parse, Option.bind_some]
    refine Option.eq_none_iff_forall_ne_some.mpr fun c' h' => ?_
    exact Bool.false_ne_true (hfinite.symm.trans (AppConfig.isFinite_of_read_write hnum h'))

end SerdeText

/-- **An older file.** Where `config.json` is within the size limit and has some of the entries that
a save of `old`, whose numbers are finite, writes, in any order and among entries of other names,
and no call fails, the load returns a configuration with these fields of `old` and the default
values in the others, and saves it in full; the next load finds it, if its text is within the size
limit. -/
theorem old_file_is_completed {t : SerdeText ν} (hnum : t.toNumbers.Lawful) {d : Disk}
    {data : Bytes} {entries : List (String × Doc ν)} {old : AppConfig}
    (hdata : d .config = some data) (hlen : data.length ≤ MAX_CONFIG_SIZE_BYTES)
    (hparse : t.parse (stripBom data) = some (.obj entries))
    (hold : old.InRange ∧ old.isFinite = true)
    (hentries : ((AppConfig.record t.toNumbers).known entries).Subperm
      ((AppConfig.record t.toNumbers).members.map (·.entry old))) :
    ∃ c : AppConfig,
      (∀ m ∈ (AppConfig.record t.toNumbers).members, m.get c =
        if m.key ∈ entries.map Prod.fst then m.get old else m.get .default) ∧
      ((loadFrom t.serdeJson .allOk).run d).1 = .done c ∧
      ((loadFrom t.serdeJson .allOk).run d).2 .config = some (t.print (t.codec.write c)) ∧
      ((loadFrom t.serdeJson .allOk).run d).2 .bak = d .bak ∧
      ∀ json, t.Prints c json → json.length ≤ MAX_CONFIG_SIZE_BYTES →
        Reloads t.serdeJson ((loadFrom t.serdeJson .allOk).run d).2 c := by
  have hrestores := (AppConfig.restores_iff hnum old).mpr hold
  obtain ⟨c, hread, hfields⟩ := Record.exists_read_of_subperm hrestores hentries
  have hrange : c.InRange := AppConfig.yields_inRange _ _ hread
  have hfinite : c.isFinite = true := by
    have hscale := hfields ⟨"accessibility", (AccessibilityConfig.record t.toNumbers).codec,
      (·.accessibility), fun a c => { c with accessibility := a }⟩ (by simp [AppConfig.record])
    unfold AppConfig.isFinite
    simp only at hscale
    rw [hscale]
    split_ifs
    · exact hold.2
    · exact AppConfig.isFinite_default
  have hgood : t.serdeJson.Accepts data c := by
    refine ⟨hlen, ?_⟩
    change (t.parse (stripBom data)).bind t.codec.read = some c
    rw [hparse]
    exact hread
  have hwritten : t.serdeJson.toVecPretty c = .ok (t.print (t.codec.write c)) := rfl
  obtain ⟨hdone, hconfig, hbak⟩ := saveTo_allOk hwritten d
  rw [loadFrom_allOk, loaded_of_accepts hdata hgood]
  refine ⟨c, hfields, hdone, hconfig, hbak, fun json hprints hjson => ?_⟩
  have hc := SerdeText.faithful hnum hrange hprints
  have hagain : t.serdeJson.Accepts json c := ⟨hjson, by rw [hc.parse, if_pos hfinite]⟩
  rw [hprints.print] at hconfig
  obtain ⟨hsame, -, hbak'⟩ := saveTo_allOk hc.written
    (((saveTo t.serdeJson .allOk c >>= fun _ => pure c) : Fs AppConfig).run d).2
  refine ⟨⟨json, hconfig, hagain⟩, ?_, ?_⟩
  · rw [loadFrom_allOk, loaded_of_accepts hconfig hagain]
    exact hsame
  · rw [loadFrom_allOk, loaded_of_accepts hconfig hagain]
    exact hbak'

/-- A file with one of the fields, and a field of another version. -/
def olderText : Bytes := ascii "\x7b\"windowWidth\":400,\"linkEnabled\":false\x7d"

/-- The documents of that file and of the configuration that it is loaded as. -/
def exampleParse (data : Bytes) : Option (Doc (ℕ ⊕ F32)) :=
  if data = olderText then
    some (.obj [("windowWidth", .num (.inl 400)), ("linkEnabled", .bool false)])
  else if data = prettyText "false" then
    some ((AppConfig.record exampleNumbers).codec.write pausedConfig)
  else none

theorem exampleParse_pretty : exampleParse (prettyText "false") =
    some ((AppConfig.record exampleNumbers).codec.write pausedConfig) := by
  have hne : prettyText "false" ≠ olderText := by decide +kernel
  rw [exampleParse, if_neg hne, if_pos rfl]

/-- `serde_json` on the files of this example. -/
def exampleText : SerdeText (ℕ ⊕ F32) where
  toNumbers := exampleNumbers
  parse := exampleParse
  print
    | .obj entries =>
      match entries.lookup "linkEnabled" with
      | some (.bool enabled) => prettyText (if enabled then "true" else "false")
      | _ => []
    | _ => []

/-- `config.json` holds that file, and there is no other one. -/
def olderDisk : Disk
  | .config => some olderText
  | .tmp | .bak => none

/-- The older file is loaded as the configuration with the default values in the other fields, and
found again. -/
theorem old_file_is_completed_older :
    ((loadFrom exampleText.serdeJson .allOk).run olderDisk).1 = .done pausedConfig ∧
      Reloads exampleText.serdeJson ((loadFrom exampleText.serdeJson .allOk).run olderDisk).2
        pausedConfig := by
  have hparse : exampleText.parse (stripBom olderText) =
      some (.obj [("windowWidth", .num (.inl 400)), ("linkEnabled", .bool false)]) := rfl
  have hold : pausedConfig.InRange ∧ pausedConfig.isFinite = true :=
    ⟨⟨by decide, VrChatConfig.inRange_default⟩, by decide⟩
  have hentries : ((AppConfig.record exampleNumbers).known
      [("windowWidth", .num (.inl 400)), ("linkEnabled", .bool false)]).Subperm
      ((AppConfig.record exampleNumbers).members.map (·.entry pausedConfig)) := by
    have hknown : (AppConfig.record exampleNumbers).known
        [("windowWidth", .num (.inl 400)), ("linkEnabled", .bool false)] =
        [("linkEnabled", .bool false)] := by simp [Record.known, AppConfig.record]
    rw [hknown, List.singleton_subperm_iff]
    exact .tail _ (.tail _ (.head _))
  obtain ⟨c, hfields, hdone, -, -, hagain⟩ := old_file_is_completed lawful_exampleNumbers
    (rfl : olderDisk .config = some olderText) (by decide +kernel) hparse hold hentries
  obtain rfl : c = pausedConfig := by
    refine (AppConfig.record exampleNumbers).ext c pausedConfig fun m hm => ?_
    rw [hfields m hm]
    split_ifs with hkey
    · rfl
    · revert m
      simp [AppConfig.record, pausedConfig, AppConfig.default]
  have hfun : exampleText.parse = exampleParse := rfl
  have hprints : exampleText.Prints pausedConfig (prettyText "false") :=
    ⟨by decide +kernel, by decide +kernel, by rw [hfun, exampleParse_pretty]; rfl⟩
  exact ⟨hdone, hagain _ hprints (by decide +kernel)⟩

end VoxShift.Storage
