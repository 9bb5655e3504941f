import VoxShift.Core.State
import VoxShift.Platform.Credentials

/-!
# From a snapshot to the screen

`voxshift-ui`'s `view_model.rs`, and what of the screen a snapshot sets: the properties of
the `AppState` global, and what the dashboard makes of them.

## The model

* A text of the dashboard is the key of the property of `Strings` that it shows.
* What the dashboard does with colours and glyphs is left out.

## What is proved

* `snapshots_look_alike_iff` — two snapshots set the same properties of `AppState` exactly if
  they agree on all but the last sync, which has the same label, and on the last error, where
  none is set like the empty one.
-/

namespace VoxShift.Ui

open VoxShift.Core VoxShift.Platform

/-- `ConnectionState` of `app-state.slint`. -/
inductive ConnectionState where
  | disconnected
  | connecting
  | authorizing
  | connected
  | degraded
  deriving DecidableEq, Repr

/-- `MuteState` of `app-state.slint`. -/
inductive MuteState where
  | unknown
  | muted
  | unmuted
  deriving DecidableEq, Repr

/-- `AppLinkMode` of `app-state.slint`. -/
inductive AppLinkMode where
  | inverseBidirectional
  | vrchatMaster
  deriving DecidableEq, Repr

/-- `LinkState` of `app-state.slint`. -/
inductive LinkState where
  | active
  | paused
  | waitingForState
  | faulted
  deriving DecidableEq, Repr

/-- `to_ui_connection_state`. -/
def toUiConnectionState : Core.ConnectionState → ConnectionState
  | .disconnected => .disconnected
  | .connecting => .connecting
  | .authorizing => .authorizing
  | .connected => .connected
  | .degraded => .degraded

/-- `to_ui_mute_state`. -/
def toUiMuteState : Core.MuteState → MuteState
  | .unknown => .unknown
  | .muted => .muted
  | .unmuted => .unmuted

/-- `to_ui_link_mode`. -/
def toUiLinkMode : LinkMode → AppLinkMode
  | .inverseBidirectional => .inverseBidirectional
  | .vrchatMaster => .vrchatMaster

/-- `to_ui_link_state`. -/
def toUiLinkState : Core.LinkState → LinkState
  | .active => .active
  | .paused => .paused
  | .waitingForState => .waitingForState
  | .faulted => .faulted

/-- `{:02}`. -/
def twoDigits (n : ℕ) : String := if n < 10 then "0" ++ toString n else toString n

/-- The label of a second of the day. -/
def clockLabel (secsOfDay : ℕ) : String :=
  twoDigits (secsOfDay / 3600) ++ ":" ++ twoDigits (secsOfDay % 3600 / 60) ++ ":" ++
    twoDigits (secsOfDay % 60)

/-- `format_last_sync`. -/
def formatLastSync (lastSyncAt : Option SystemTime) : String :=
  match lastSyncAt with
  | none => "--:--:--"
  | some syncedAt =>
    match SystemTime.durationSince syncedAt UNIX_EPOCH with
    | none => "--:--:--"
    | some sinceEpoch => clockLabel (sinceEpoch / 1000000000 % 86400)

/-- `UiSnapshot`. -/
structure UiSnapshot where
  vrchatConnection : ConnectionState
  vrchatMute : MuteState
  discordConnection : ConnectionState
  discordMute : MuteState
  discordInVoiceChannel : Bool
  linkMode : AppLinkMode
  linkState : LinkState
  lastSyncLabel : String
  lastError : String
  deriving DecidableEq, Repr

/-- `from_snapshot`. -/
def fromSnapshot (snapshot : AppSnapshot) : UiSnapshot where
  vrchatConnection := toUiConnectionState snapshot.vrchatConnection
  vrchatMute := toUiMuteState snapshot.vrchatMute
  discordConnection := toUiConnectionState snapshot.discordConnection
  discordMute := toUiMuteState snapshot.discordMute
  discordInVoiceChannel := snapshot.discordInVoiceChannel
  linkMode := toUiLinkMode snapshot.linkMode
  linkState := toUiLinkState snapshot.linkState
  lastSyncLabel := formatLastSync snapshot.lastSyncAt
  lastError := snapshot.lastError.getD ""

/-! ### The screen -/

/-- The properties of the `AppState` global that a snapshot sets. -/
structure AppState where
  vrchatConnection : ConnectionState
  vrchatMute : MuteState
  discordConnection : ConnectionState
  discordMute : MuteState
  discordInVoiceChannel : Bool
  linkMode : AppLinkMode
  linkState : LinkState
  lastSyncLabel : String
  lastError : String
  deriving DecidableEq, Repr

/-- The properties as `app-state.slint` sets them. -/
def AppState.init : AppState where
  vrchatConnection := .disconnected
  vrchatMute := .unknown
  discordConnection := .disconnected
  discordMute := .unknown
  discordInVoiceChannel := false
  linkMode := .inverseBidirectional
  linkState := .waitingForState
  lastSyncLabel := "--:--:--"
  lastError := ""

/-- `apply_snapshot`. -/
def applySnapshot (appState : AppState) (snapshot : AppSnapshot) : AppState :=
  let uiSnap := fromSnapshot snapshot
  { appState with
    vrchatConnection := uiSnap.vrchatConnection
    vrchatMute := uiSnap.vrchatMute
    discordConnection := uiSnap.discordConnection
    discordMute := uiSnap.discordMute
    discordInVoiceChannel := uiSnap.discordInVoiceChannel
    linkMode := uiSnap.linkMode
    linkState := uiSnap.linkState
    lastSyncLabel := uiSnap.lastSyncLabel
    lastError := uiSnap.lastError }

namespace Dashboard

/-- `vrchat-status-text`. -/
def vrchatStatusText (appState : AppState) : String :=
  if appState.vrchatMute = .muted then "status-mic-off"
  else if appState.vrchatMute = .unmuted then "status-mic-on"
  else "status-unknown"

/-- `discord-status-text`. -/
def discordStatusText (appState : AppState) : String :=
  if appState.discordMute = .muted then "status-vc-muted"
  else if appState.discordMute = .unmuted then "status-vc-on"
  else "status-unknown"

/-- What the pause button asks for: `resume-clicked` or `pause-clicked`. -/
def pauseClicked (appState : AppState) : CoordinatorCommand :=
  if appState.linkState = .paused then .setPaused false else .setPaused true

end Dashboard

/-! ### What the screen tells apart -/

theorem twoDigits_toList {n : ℕ} (h : n < 100) :
    (twoDigits n).toList = [Nat.digitChar (n / 10), Nat.digitChar (n % 10)] := by
  have hall : ∀ n : Fin 100,
      (twoDigits n).toList = [Nat.digitChar (n / 10), Nat.digitChar (n % 10)] := by
    decide +kernel
  exact hall ⟨n, h⟩

theorem digitChar_inj {a b : ℕ} (ha : a < 10) (hb : b < 10)
    (h : Nat.digitChar a = Nat.digitChar b) : a = b := by
  have hall : ∀ a b : Fin 10, Nat.digitChar a = Nat.digitChar b → a = b := by decide
  exact congrArg Fin.val (hall ⟨a, ha⟩ ⟨b, hb⟩ h)

theorem clockLabel_toList {secs : ℕ} (h : secs < 86400) :
    (clockLabel secs).toList =
      [Nat.digitChar (secs / 3600 / 10), Nat.digitChar (secs / 3600 % 10), ':',
        Nat.digitChar (secs % 3600 / 60 / 10), Nat.digitChar (secs % 3600 / 60 % 10), ':',
        Nat.digitChar (secs % 60 / 10), Nat.digitChar (secs % 60 % 10)] := by
  unfold clockLabel
  simp only [String.toList_append, twoDigits_toList (show secs / 3600 < 100 by omega),
    twoDigits_toList (show secs % 3600 / 60 < 100 by omega),
    twoDigits_toList (show secs % 60 < 100 by omega)]
  rfl

theorem clockLabel_inj {a b : ℕ} (ha : a < 86400) (hb : b < 86400) :
    clockLabel a = clockLabel b ↔ a = b := by
  refine ⟨fun h => ?_, congrArg clockLabel⟩
  have hlist := congrArg String.toList h
  rw [clockLabel_toList ha, clockLabel_toList hb] at hlist
  simp only [List.cons.injEq, true_and, and_true] at hlist
  obtain ⟨h1, h2, h3, h4, h5, h6⟩ := hlist
  have hhourTens := digitChar_inj (by omega) (by omega) h1
  have hhour := digitChar_inj (by omega) (by omega) h2
  have hminuteTens := digitChar_inj (by omega) (by omega) h3
  have hminute := digitChar_inj (by omega) (by omega) h4
  have hsecondTens := digitChar_inj (by omega) (by omega) h5
  have hsecond := digitChar_inj (by omega) (by omega) h6
  omega

theorem clockLabel_ne_placeholder {secs : ℕ} (h : secs < 86400) : clockLabel secs ≠ "--:--:--" := by
  intro he
  have hlist := congrArg String.toList he
  rw [clockLabel_toList h] at hlist
  have hall : ∀ a : Fin 10, Nat.digitChar a ≠ '-' := by decide
  exact hall ⟨secs / 3600 / 10, by omega⟩ (List.cons.inj hlist).1

/-- The second of the day of a last sync, where it has one. -/
def secondOfDay? (lastSyncAt : Option SystemTime) : Option ℕ :=
  (lastSyncAt.bind fun syncedAt => SystemTime.durationSince syncedAt UNIX_EPOCH).map
    fun sinceEpoch => sinceEpoch / 1000000000 % 86400

theorem formatLastSync_eq (lastSyncAt : Option SystemTime) :
    formatLastSync lastSyncAt = (secondOfDay? lastSyncAt).elim "--:--:--" clockLabel := by
  unfold formatLastSync secondOfDay?
  cases lastSyncAt with
  | none => rfl
  | some syncedAt =>
    simp only [Option.bind_some]
    cases SystemTime.durationSince syncedAt UNIX_EPOCH <;> rfl

theorem secondOfDay?_lt {lastSyncAt : Option SystemTime} {secs : ℕ}
    (h : secondOfDay? lastSyncAt = some secs) : secs < 86400 := by
  obtain ⟨sinceEpoch, -, rfl⟩ := Option.map_eq_some_iff.mp h
  exact Nat.mod_lt _ (by decide)

/-- Two last syncs have the same label exactly if they have the same second of the day, or neither
has one. -/
theorem formatLastSync_eq_iff (a b : Option SystemTime) :
    formatLastSync a = formatLastSync b ↔ secondOfDay? a = secondOfDay? b := by
  rw [formatLastSync_eq, formatLastSync_eq]
  cases ha : secondOfDay? a with
  | none =>
    cases hb : secondOfDay? b with
    | none => simp
    | some secs => simpa using (clockLabel_ne_placeholder (secondOfDay?_lt hb)).symm
  | some secs =>
    cases hb : secondOfDay? b with
    | none => simpa using clockLabel_ne_placeholder (secondOfDay?_lt ha)
    | some secs' => simpa using clockLabel_inj (secondOfDay?_lt ha) (secondOfDay?_lt hb)

@[simp] theorem toUiConnectionState_inj {a b : Core.ConnectionState} :
    toUiConnectionState a = toUiConnectionState b ↔ a = b := by
  cases a <;> cases b <;> simp [toUiConnectionState]

@[simp] theorem toUiMuteState_inj {a b : Core.MuteState} :
    toUiMuteState a = toUiMuteState b ↔ a = b := by
  cases a <;> cases b <;> simp [toUiMuteState]

@[simp] theorem toUiLinkMode_inj {a b : LinkMode} : toUiLinkMode a = toUiLinkMode b ↔ a = b := by
  cases a <;> cases b <;> simp [toUiLinkMode]

@[simp] theorem toUiLinkState_inj {a b : Core.LinkState} :
    toUiLinkState a = toUiLinkState b ↔ a = b := by
  cases a <;> cases b <;> simp [toUiLinkState]

/-- **What `AppState` tells apart.** Two snapshots set the same properties of it exactly if they
agree on all but the last sync and the last error, their last syncs fall on the same second of the
day or both have no time to show, and their errors are the same or one is empty and the other is
none. -/
theorem snapshots_look_alike_iff (before : AppState) (a b : AppSnapshot) :
    applySnapshot before a = applySnapshot before b ↔
      { a with lastSyncAt := none, lastError := none } =
          { b with lastSyncAt := none, lastError := none } ∧
        secondOfDay? a.lastSyncAt = secondOfDay? b.lastSyncAt ∧
        a.lastError.getD "" = b.lastError.getD "" := by
  rw [← formatLastSync_eq_iff]
  simp only [applySnapshot, fromSnapshot, AppState.mk.injEq, AppSnapshot.mk.injEq,
    toUiConnectionState_inj, toUiMuteState_inj, toUiLinkMode_inj, toUiLinkState_inj, and_true,
    and_assoc]

end VoxShift.Ui
