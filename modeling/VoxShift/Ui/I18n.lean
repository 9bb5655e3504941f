import Mathlib.Data.List.Nodup
import Mathlib.Logic.Function.Basic

/-!
# Language packs

`voxshift-ui`'s `i18n.rs`: the two bundled packs, the packs of the user, and how the texts
of a language get to the screen.

## The model

* A pack is a table from keys to texts; of a file of the user it is what is read from it, if
  it can be read. What is no table is taken for the empty one.
* The screen's texts are the properties of the `Strings` global, by their keys.

## What is proved

* `labels_of_last_language` — after any changes of the language, with the packs as they
  were at each time, every text is that of the last one.
* `available_languages_listed` — the picker lists each language once.
-/

namespace VoxShift.Ui

/-- A table from keys to texts. -/
abbrev Table := String → Option String

/-- The table of a list of entries. -/
def Table.ofList (entries : List (String × String)) : Table := fun key => entries.lookup key

/-- `HashMap::extend`. -/
def Table.extend (table other : Table) : Table := fun key => (other key).or (table key)

/-- `BUNDLED_EN`. -/
def BUNDLED_EN : List (String × String) := [
  ("nav-dashboard", "Dashboard"),
  ("nav-link-mode", "Link Mode"),
  ("nav-settings", "Settings"),
  ("nav-diagnostics", "Diagnostics"),
  ("nav-about", "About"),
  ("card-vrchat-title", "VRChat"),
  ("card-discord-title", "Discord"),
  ("status-mic-on", "Mic ON"),
  ("status-mic-off", "Mic OFF"),
  ("status-unknown", "Unknown"),
  ("status-vc-muted", "VC Muted"),
  ("status-vc-on", "VC On"),
  ("conn-connected", "Connected"),
  ("conn-connecting", "Connecting"),
  ("conn-authorizing", "Authorizing"),
  ("conn-degraded", "Degraded"),
  ("conn-disconnected", "Disconnected"),
  ("mode-inverse", "Inverse / Bidirectional"),
  ("mode-vrchat-priority", "VRChat Priority"),
  ("action-pause", "Pause"),
  ("action-resume", "Resume"),
  ("action-resync", "Resync"),
  ("label-last-sync-prefix", "Last sync: "),
  ("link-mode-title", "Link Mode"),
  ("link-mode-description",
    "Inverse/Bidirectional keeps VRChat and Discord in a strict inverse " ++
      "relationship. VRChat Priority only reflects VRChat's state onto Discord and " ++
      "never the reverse."),
  ("settings-title", "Settings"),
  ("settings-reduce-motion", "Reduce motion"),
  ("settings-on", "On"),
  ("settings-off", "Off"),
  ("settings-language-title", "Language"),
  ("settings-discord-title", "Discord"),
  ("settings-discord-description",
    "Discord is only authorized when you click the button below — never " ++
      "automatically."),
  ("settings-discord-authorize-button", "Authorize with Discord"),
  ("diagnostics-title", "Diagnostics"),
  ("diagnostics-copy", "Copy"),
  ("about-title", "VoxShift"),
  ("about-description",
    "Links VRChat and Discord mic/mute state so only one destination ever hears you " ++
      "at a time."),
  ("about-footer", "No VoxShift account. No telemetry. No cloud sync.")]

/-- `BUNDLED_JA`. -/
def BUNDLED_JA : List (String × String) := [
  ("nav-dashboard", "ダッシュボード"),
  ("nav-link-mode", "リンクモード"),
  ("nav-settings", "設定"),
  ("nav-diagnostics", "診断情報"),
  ("nav-about", "アプリについて"),
  ("card-vrchat-title", "VRChat"),
  ("card-discord-title", "Discord"),
  ("status-mic-on", "マイクオン"),
  ("status-mic-off", "マイクオフ"),
  ("status-unknown", "不明"),
  ("status-vc-muted", "VCミュート中"),
  ("status-vc-on", "VCオン"),
  ("conn-connected", "接続済み"),
  ("conn-connecting", "接続中"),
  ("conn-authorizing", "認可中"),
  ("conn-degraded", "低下"),
  ("conn-disconnected", "未接続"),
  ("mode-inverse", "反転連動"),
  ("mode-vrchat-priority", "VRChat優先"),
  ("action-pause", "一時停止"),
  ("action-resume", "再開"),
  ("action-resync", "再同期"),
  ("label-last-sync-prefix", "最終同期: "),
  ("link-mode-title", "リンクモード"),
  ("link-mode-description",
    "反転連動は、VRChatとDiscordを厳密な反転関係で連動させます。VRChat優先は、VRChatの状態のみをDiscordへ反映し、逆方向には反映し" ++
      "ません。"),
  ("settings-title", "設定"),
  ("settings-reduce-motion", "アニメーションを減らす"),
  ("settings-on", "オン"),
  ("settings-off", "オフ"),
  ("settings-language-title", "言語"),
  ("settings-discord-title", "Discord"),
  ("settings-discord-description", "Discordの認可は、下のボタンを押したときだけ行われます。自動では行われません。"),
  ("settings-discord-authorize-button", "Discordで認可する"),
  ("diagnostics-title", "診断情報"),
  ("diagnostics-copy", "コピー"),
  ("about-title", "VoxShift"),
  ("about-description", "VRChatとDiscordのマイク・ミュート状態を連動させ、常にどちらか一方にしか音声が届かないようにします。"),
  ("about-footer", "VoxShift独自アカウント・テレメトリー・クラウド同期はありません。")]

/-- `BUNDLED_LANGUAGES`. -/
def BUNDLED_LANGUAGES : List (String × String) := [("en", "English"), ("ja", "日本語")]

/-- The keys that `apply` looks up, in its order. -/
def KEYS : List String := [
  "nav-dashboard", "nav-link-mode", "nav-settings", "nav-diagnostics", "nav-about",
  "card-vrchat-title", "card-discord-title", "status-mic-on", "status-mic-off", "status-unknown",
  "status-vc-muted", "status-vc-on", "conn-connected", "conn-connecting", "conn-authorizing",
  "conn-degraded", "conn-disconnected", "mode-inverse", "mode-vrchat-priority", "action-pause",
  "action-resume", "action-resync", "label-last-sync-prefix", "link-mode-title",
  "link-mode-description", "settings-title", "settings-reduce-motion", "settings-on",
  "settings-off", "settings-language-title", "settings-discord-title",
  "settings-discord-description", "settings-discord-authorize-button", "diagnostics-title",
  "diagnostics-copy", "about-title", "about-description", "about-footer"]

/-- `bundled_json`, parsed. -/
def bundled (code : String) : Option Table :=
  if code = "en" then some (.ofList BUNDLED_EN)
  else if code = "ja" then some (.ofList BUNDLED_JA)
  else none

/-- The packs of the user: whether there is a file that can be read, and the table in it. -/
abbrev ExternalPacks := String → Option (Option Table)

/-- `parse_table`. -/
def parseTable (parsed : Option Table) : Table := parsed.getD fun _ => none

/-- `load_language`. -/
def loadLanguage (external : ExternalPacks) (code : String) : Table :=
  let table := (bundled "en").getD fun _ => none
  let table :=
    if code ≠ "en" then
      match bundled code with
      | some pack => table.extend pack
      | none => table
    else table
  match external code with
  | some parsed => table.extend (parseTable parsed)
  | none => table

/-- The `Strings` global. -/
abbrev Strings := String → String

/-- `set!`. -/
def Strings.set (table : Table) (strings : Strings) (key : String) : Strings :=
  match table key with
  | some value => Function.update strings key value
  | none => strings

/-- `apply`. -/
def apply (strings : Strings) (table : Table) : Strings := KEYS.foldl (Strings.set table) strings

/-! ### The texts on the screen -/

/-- The language is changed: its code, and the packs of the user at that time. -/
def switch (strings : Strings) (language : String × ExternalPacks) : Strings :=
  apply strings (loadLanguage language.2 language.1)

theorem set_get (table : Table) (strings : Strings) (key k : String) :
    strings.set table key k = if k = key then (table k).getD (strings k) else strings k := by
  unfold Strings.set
  by_cases hk : k = key
  · subst hk
    cases table k <;> simp
  · cases table key <;> simp [hk]

/-- What `apply` leaves: the text of the table, or else what was there. -/
theorem apply_get (strings : Strings) (table : Table) {key : String} (hkey : key ∈ KEYS) :
    apply strings table key = (table key).getD (strings key) := by
  have hfold : ∀ (keys : List String) (strings : Strings), keys.foldl (Strings.set table) strings
      key = if key ∈ keys then (table key).getD (strings key) else strings key := by
    intro keys
    induction keys with
    | nil => simp
    | cons k keys ih =>
      intro strings
      rw [List.foldl_cons, ih, set_get]
      by_cases hk : key = k
      · cases htable : table key <;> simp [hk]
      · simp [hk]
  rw [apply, hfold, if_pos hkey]

/-- What the merged table holds: the text of the user's pack, or of the bundled one, or the English
one. -/
theorem loadLanguage_get (external : ExternalPacks) (code key : String) :
    loadLanguage external code key =
      ((external code).bind (parseTable · key)).or
        (((bundled code).bind (· key)).or (Table.ofList BUNDLED_EN key)) := by
  have hbase : (if code ≠ "en" then
      match bundled code with
      | some pack => (Table.ofList BUNDLED_EN).extend pack
      | none => Table.ofList BUNDLED_EN
      else Table.ofList BUNDLED_EN) key =
      ((bundled code).bind (· key)).or (Table.ofList BUNDLED_EN key) := by
    by_cases hcode : code = "en"
    · subst hcode
      simp [bundled]
    · rw [if_pos hcode]
      cases bundled code <;> rfl
  rw [← hbase]
  unfold loadLanguage
  cases external code <;> rfl

theorem bundled_en_complete : ∀ key ∈ KEYS, (Table.ofList BUNDLED_EN key).isSome = true := by
  decide +kernel

/-- **The language on the screen is the last one chosen.** After any changes of the language, each
with the packs of the user as they are at that time, every text is the one that the user's pack for
the last language has, or the bundled pack for it, or the English one; whatever was there before. -/
theorem labels_of_last_language (strings : Strings) (languages : List (String × ExternalPacks))
    (code : String) (external : ExternalPacks) :
    ∀ key ∈ KEYS, some ((languages ++ [(code, external)]).foldl switch strings key) =
      ((external code).bind (parseTable · key)).or
        (((bundled code).bind (· key)).or (Table.ofList BUNDLED_EN key)) := by
  intro key hkey
  rw [List.foldl_append, List.foldl_cons, List.foldl_nil, switch, apply_get _ _ hkey,
    ← loadLanguage_get]
  have hsome : (loadLanguage external code key).isSome = true := by
    rw [loadLanguage_get, Option.isSome_or, Option.isSome_or, bundled_en_complete key hkey,
      Bool.or_true, Bool.or_true]
  obtain ⟨value, hvalue⟩ := Option.isSome_iff_exists.mp hsome
  rw [hvalue, Option.getD_some]

/-- After a change to English and one to Japanese, for which the user has a pack of one text: this
text is the user's, and another one is of the bundled pack. -/
theorem labels_of_last_language_ja :
    let packs : ExternalPacks := fun code =>
      if code = "ja" then some (some (.ofList [("about-title", "ボックスシフト")])) else none
    let screen := [("en", packs), ("ja", packs)].foldl switch fun _ => ""
    some (screen "about-title") = some "ボックスシフト" ∧
      some (screen "nav-settings") = some "設定" := by
  intro packs
  have hlast := labels_of_last_language (fun _ => "") [("en", packs)] "ja" packs
  exact ⟨(hlast "about-title" (by decide)).trans (by decide +kernel),
    (hlast "nav-settings" (by decide)).trans (by decide +kernel)⟩

/-! ### The picker -/

/-- An entry of the directory of the packs: its extension and its stem, where they are there and
Unicode. -/
structure DirEntry where
  extension : Option String
  fileStem : Option String
  deriving DecidableEq, Repr

/-- The body of the loop of `available_languages`. -/
def listLanguage (languages : List (String × String)) (entry : DirEntry) :
    List (String × String) :=
  if entry.extension ≠ some "json" then languages
  else
    match entry.fileStem with
    | none => languages
    | some code =>
      if languages.any (·.1 = code) then languages else languages ++ [(code, code)]

/-- `available_languages`; the entries of the directory, if it can be read. -/
def availableLanguages (dir : Option (List DirEntry)) : List (String × String) :=
  (dir.getD []).foldl listLanguage BUNDLED_LANGUAGES

/-- The languages listed, and the codes of the entries read so far. -/
structure Listed (languages : List (String × String)) (entries : List DirEntry) : Prop where
  bundled : BUNDLED_LANGUAGES <+: languages
  nodup : (languages.map Prod.fst).Nodup
  mem_iff : ∀ code, code ∈ languages.map Prod.fst ↔
    code ∈ BUNDLED_LANGUAGES.map Prod.fst ∨ ⟨some "json", some code⟩ ∈ entries

theorem Listed.same {languages : List (String × String)} {entries : List DirEntry}
    (h : Listed languages entries) {entry : DirEntry}
    (hentry : ∀ code, entry = ⟨some "json", some code⟩ → code ∈ languages.map Prod.fst) :
    Listed languages (entries ++ [entry]) where
  bundled := h.bundled
  nodup := h.nodup
  mem_iff code := by
    rw [List.mem_append, List.mem_singleton, ← or_assoc, ← h.mem_iff]
    exact (or_iff_left_of_imp fun heq => hentry code heq.symm).symm

theorem Listed.step {languages : List (String × String)} {entries : List DirEntry}
    (h : Listed languages entries) (entry : DirEntry) :
    Listed (listLanguage languages entry) (entries ++ [entry]) := by
  obtain ⟨extension, fileStem⟩ := entry
  unfold listLanguage
  split_ifs with hextension
  · exact h.same fun code heq => absurd (congrArg DirEntry.extension heq) hextension
  obtain rfl : extension = some "json" := not_not.mp hextension
  cases fileStem with
  | none => exact h.same fun code heq => by cases congrArg DirEntry.fileStem heq
  | some new =>
    simp only
    split_ifs with hlisted
    · have hmem : new ∈ languages.map Prod.fst := by
        obtain ⟨language, hlanguage, hcode⟩ := List.any_eq_true.mp hlisted
        exact List.mem_map.mpr ⟨language, hlanguage, of_decide_eq_true hcode⟩
      refine h.same fun code heq => ?_
      obtain rfl := Option.some.inj (congrArg DirEntry.fileStem heq)
      exact hmem
    · have hnot : new ∉ languages.map Prod.fst := by
        intro hmem
        obtain ⟨language, hlanguage, hcode⟩ := List.mem_map.mp hmem
        exact hlisted (List.any_eq_true.mpr ⟨language, hlanguage, decide_eq_true hcode⟩)
      refine ⟨h.bundled.trans (List.prefix_append _ _), ?_, fun code => ?_⟩
      · rw [List.map_append]
        refine List.nodup_append.mpr ⟨h.nodup, List.nodup_singleton _, ?_⟩
        rintro code hcode other hother rfl
        obtain rfl : code = new := List.mem_singleton.mp hother
        exact hnot hcode
      · rw [List.map_append, List.mem_append, List.mem_append, h.mem_iff, or_assoc]
        simp

theorem listed_foldl {languages : List (String × String)} {read : List DirEntry}
    (h : Listed languages read) (entries : List DirEntry) :
    Listed (entries.foldl listLanguage languages) (read ++ entries) := by
  induction entries generalizing languages read with
  | nil => simpa using h
  | cons entry entries ih =>
    rw [List.append_cons]
    exact ih (h.step entry)

/-- **The picker lists each language once**: the bundled ones first, and then each other one for
which there is an entry in the directory. -/
theorem available_languages_listed (dir : Option (List DirEntry)) :
    BUNDLED_LANGUAGES <+: availableLanguages dir ∧
      ((availableLanguages dir).map Prod.fst).Nodup ∧
      ∀ code, code ∈ (availableLanguages dir).map Prod.fst ↔
        code ∈ BUNDLED_LANGUAGES.map Prod.fst ∨ ⟨some "json", some code⟩ ∈ dir.getD [] := by
  have hstart : Listed BUNDLED_LANGUAGES [] := ⟨List.prefix_refl _, by decide, by simp⟩
  have h := listed_foldl hstart (dir.getD [])
  exact ⟨h.bundled, h.nodup, h.mem_iff⟩

end VoxShift.Ui
