import VoxShift.Core.System
import VoxShift.Theory.Watch
import VoxShift.Ui.ViewModel

/-!
# From the coordinator to the screen

`voxshift-app`'s `application.rs`, as far as it draws: `bridge_snapshot_to_ui`, which takes
each new snapshot from the watch channel and queues a call of `apply_snapshot` on the thread
of the window, and the button of the dashboard that pauses and resumes.

## The model

* The coordinator takes turns on anything, in any order. A turn sends its snapshots one after
  another; what the bridge and the window do may come in between, the next turn not.
* `slint::invoke_from_event_loop` queues the calls in order. The window and the channel are
  there as long as the program is: a receiver still takes what was sent before its sender
  was dropped.
* The receiver of the bridge counts the initial snapshot as seen.

## What is proved

* `drawn_is_published` — what is drawn was published, in that order.
* `screen_is_current_iff` — with nothing on its way to the screen it shows the snapshot of
  the coordinator, unless none has been published since the start and the start was not the
  default one.
* `pause_button_toggles_iff` — and then the command of the button pauses a link that is not
  paused, and resumes one that is.
* `screen_is_true` — so in the whole system what the dashboard says of a microphone is true.
-/

namespace VoxShift.App

open VoxShift.Core VoxShift.Theory VoxShift.Ui

/-! ### The window -/

/-- The window, and what is on its way to it. -/
structure Window where
  /-- What the coordinator has still to send in this turn. -/
  unsent : List AppSnapshot
  /-- The watch channel, the bridge's receiver, and the calls queued for the window. -/
  snapshotRx : Watch AppSnapshot
  appState : AppState

/-- What happens on the way to the window. -/
inductive WindowBeat where
  /-- The coordinator sends the next snapshot of its turn. -/
  | publishes
  /-- `rx.changed()` returns: the bridge takes the snapshot and queues a call. -/
  | changed
  /-- The window runs the next call. -/
  | draws
  deriving DecidableEq, Repr

namespace Window

/-- The program just started, with this snapshot in the watch channel. -/
def start (snapshot : AppSnapshot) : Window := ⟨[], .init snapshot, .init⟩

/-- One beat; it emits what is drawn. -/
def step (w : Window) : WindowBeat → Window × List AppSnapshot
  | .publishes =>
    match w.unsent with
    | [] => (w, [])
    | snapshot :: unsent =>
      ({ w with unsent := unsent, snapshotRx := (w.snapshotRx.step (.send snapshot)).1 }, [])
  | .changed => ({ w with snapshotRx := (w.snapshotRx.step .take).1 }, [])
  | .draws =>
    let (snapshotRx, drawn) := w.snapshotRx.step .present
    ({ w with snapshotRx := snapshotRx, appState := drawn.foldl applySnapshot w.appState }, drawn)

/-- What is on its way to the screen. -/
def underway (w : Window) : List AppSnapshot := w.snapshotRx.underway ++ w.unsent

/-- **One beat**: what is drawn, and then what is on its way, is what was on its way, conflated. -/
theorem conflated_step (w : Window) (b : WindowBeat) :
    Conflated ((w.step b).2 ++ (w.step b).1.underway) w.underway := by
  obtain ⟨unsent, snapshotRx, appState⟩ := w
  cases b with
  | publishes =>
    cases unsent with
    | nil => exact .refl _
    | cons snapshot unsent =>
      have h := (snapshotRx.conflated_step (.send snapshot)).append_right unsent
      rw [List.append_assoc snapshotRx.underway] at h
      exact h
  | changed =>
    have h := (snapshotRx.conflated_step .take).append_right unsent
    rw [Watch.sent, List.append_nil, Watch.step_take_snd] at h
    exact h
  | draws =>
    have h := (snapshotRx.conflated_step .present).append_right unsent
    rw [Watch.sent, List.append_nil, List.append_assoc] at h
    exact h

theorem appState_step (w : Window) (b : WindowBeat) :
    (w.step b).1.appState = (w.step b).2.foldl applySnapshot w.appState := by
  cases b with
  | publishes =>
    simp only [step]
    split <;> rfl
  | changed | draws => rfl

end Window

/-! ### The coordinator and the window -/

/-- The coordinator with the window. -/
structure Windowed where
  coordinator : Coordinator
  window : Window

/-- What happens next. -/
inductive Beat where
  /-- The coordinator takes a turn, if the last one is over. -/
  | turn (env : Env) (i : Input)
  | window (b : WindowBeat)

namespace Windowed

/-- One beat; it emits what is drawn. -/
def step (w : Windowed) : Beat → Windowed × List AppSnapshot
  | .turn env i =>
    if w.window.unsent = [] then
      ({ coordinator := (w.coordinator.step env i).1
         window := { w.window with unsent := w.coordinator.sends env i } }, [])
    else (w, [])
  | .window b => ({ w with window := (w.window.step b).1 }, (w.window.step b).2)

/-- What the turn that a beat begins sends. -/
def published (w : Windowed) : Beat → List AppSnapshot
  | .turn env i => if w.window.unsent = [] then w.coordinator.sends env i else []
  | .window _ => []

/-- The program just started. -/
def start (cfg : CoordinatorConfig) : Windowed :=
  ⟨.new cfg, .start (Coordinator.new cfg).snapshotTx⟩

end Windowed

/-- The coordinator with the window as a machine; it emits what is drawn. -/
def windowed : Machine Windowed Beat AppSnapshot where
  step := Windowed.step

namespace Windowed

/-! #### What is drawn -/

/-- **One beat**: what is drawn, and then what is on its way, is what was on its way, and then what
is published, conflated. -/
theorem conflated_step (w : Windowed) (b : Beat) :
    Conflated ((w.step b).2 ++ (w.step b).1.window.underway)
      (w.window.underway ++ w.published b) := by
  cases b with
  | turn env i =>
    simp only [step, published]
    split_ifs with hunsent
    · simp only [Window.underway, hunsent, List.nil_append, List.append_nil]
      exact .refl _
    · rw [List.nil_append, List.append_nil]
      exact .refl _
  | window b =>
    rw [published, List.append_nil]
    exact w.window.conflated_step b

/-- **Every run.** -/
theorem conflated_run (w : Windowed) (bs : List Beat) :
    Conflated (windowed.outs w bs ++ (windowed.run w bs).window.underway)
      (w.window.underway ++ windowed.collect published w bs) := by
  have h : windowed.Along (fun w b => Conflated (windowed.out w b ++
      (windowed.next w b).window.underway) (w.window.underway ++ w.published b)) w bs :=
    windowed.along_all (fun w b => w.conflated_step b) w bs
  exact @Machine.Along.conflated _ _ _ windowed (fun w => w.window.underway) published w bs h

/-- The screen shows what was drawn last. -/
theorem foldl_applySnapshot (appState : AppState) (drawn : List AppSnapshot) :
    drawn.foldl applySnapshot appState =
      drawn.getLast?.elim appState (applySnapshot .init) := by
  rcases List.eq_nil_or_concat' drawn with rfl | ⟨before, last, rfl⟩
  · rfl
  · rw [List.foldl_append, List.getLast?_concat]
    rfl

theorem appState_step (w : Windowed) (b : Beat) :
    (w.step b).1.window.appState = (w.step b).2.foldl applySnapshot w.window.appState := by
  cases b with
  | turn env i =>
    simp only [step]
    split_ifs <;> rfl
  | window b => exact w.window.appState_step b

theorem appState_run (w : Windowed) (bs : List Beat) :
    (windowed.run w bs).window.appState =
      (windowed.outs w bs).foldl applySnapshot w.window.appState := by
  induction bs generalizing w with
  | nil => rfl
  | cons b bs ih =>
    have hstep : (windowed.next w b).window.appState =
        (windowed.out w b).foldl applySnapshot w.window.appState := w.appState_step b
    rw [Machine.run_cons, Machine.outs_cons, ih, List.foldl_append, hstep]

/-! #### What is published -/

/-- **One beat**: it publishes the coordinator's last snapshot last, or none, and leaves the
coordinator alone. -/
theorem published_step {w : Windowed} (hpub : w.coordinator.Published) (b : Beat) :
    (w.published b = [] ∧ (w.step b).1.coordinator = w.coordinator) ∨
      ∃ before, w.published b = before ++ [(w.step b).1.coordinator.snapshotTx] := by
  cases b with
  | turn env i =>
    simp only [step, published]
    split_ifs
    · cases hpub.sends env i with
      | last before he => exact .inr ⟨before, he⟩
      | nothing he hc => exact .inl ⟨he, congrArg Prod.fst hc⟩
    · exact .inl ⟨rfl, rfl⟩
  | window b => exact .inl ⟨rfl, rfl⟩

theorem coordinator_published_step {w : Windowed} (hpub : w.coordinator.Published) (b : Beat) :
    (w.step b).1.coordinator.Published := by
  cases b with
  | turn env i =>
    simp only [step]
    split_ifs
    · exact hpub.after_step env i
    · exact hpub
  | window b => exact hpub

/-- **Every run** publishes the coordinator's last snapshot last, or none, and leaves the
coordinator alone. -/
theorem published_run {w : Windowed} (hpub : w.coordinator.Published) (bs : List Beat) :
    (windowed.collect published w bs = [] ∧
        (windowed.run w bs).coordinator = w.coordinator) ∨
      (windowed.collect published w bs).getLast? =
        some (windowed.run w bs).coordinator.snapshotTx := by
  induction bs generalizing w with
  | nil => exact .inl ⟨rfl, rfl⟩
  | cons b bs ih =>
    have hnext : (windowed.next w b).coordinator.Published := coordinator_published_step hpub b
    rw [Machine.collect_cons, Machine.run_cons, List.getLast?_append]
    rcases ih hnext with ⟨hnil, hsame⟩ | hlast
    · rw [hnil, hsame, List.append_nil]
      rcases published_step hpub b with hnone | ⟨before, he⟩
      · exact .inl hnone
      · refine .inr ?_
        rw [he, List.getLast?_concat]
        rfl
    · refine .inr ?_
      rw [hlast]
      rfl

theorem coordinator_published_run (cfg : CoordinatorConfig) (bs : List Beat) :
    (windowed.run (start cfg) bs).coordinator.Published :=
  Machine.inv_run (M := windowed) (I := fun w => w.coordinator.Published)
    (fun _ b h => coordinator_published_step h b) (Coordinator.published_new cfg) bs

/-- **With nothing on its way** the screen shows the coordinator's snapshot, or nothing has been
published, and everything is as at the start. -/
theorem still_cases {cfg : CoordinatorConfig} {w : Windowed} {bs : List Beat}
    (hw : w = windowed.run (start cfg) bs) (hstill : w.window.underway = []) :
    (windowed.collect published (start cfg) bs = [] ∧ w.window.appState = .init ∧
        w.coordinator = .new cfg) ∨
      (windowed.collect published (start cfg) bs ≠ [] ∧
        w.window.appState = applySnapshot .init w.coordinator.snapshotTx) := by
  subst hw
  have hconf :
      Conflated (windowed.outs (start cfg) bs) (windowed.collect published (start cfg) bs) := by
    have h := conflated_run (start cfg) bs
    rwa [hstill, List.append_nil] at h
  have hshown := appState_run (start cfg) bs
  rw [foldl_applySnapshot, hconf.getLast?] at hshown
  have hpub : (start cfg).coordinator.Published := Coordinator.published_new cfg
  rcases published_run hpub bs with ⟨hnil, hsame⟩ | hlast
  · rw [hnil] at hshown
    exact .inl ⟨hnil, hshown, hsame⟩
  · rw [hlast] at hshown
    refine .inr ⟨fun hnil => ?_, hshown⟩
    rw [hnil] at hlast
    cases hlast

end Windowed

/-- **What is drawn was published.** In every run, what is drawn, and then what is on its way to be
drawn, are the snapshots published since the start, in that order, less some that others
followed. -/
theorem drawn_is_published (cfg : CoordinatorConfig) (bs : List Beat) :
    let w := Windowed.start cfg
    Conflated (windowed.outs w bs ++ (windowed.run w bs).window.underway)
      (windowed.collect Windowed.published w bs) :=
  (Windowed.start cfg).conflated_run bs

/-! ### Nothing on its way to the screen -/

section Still

variable {cfg : CoordinatorConfig} {bs : List Beat} {w : Windowed}

/-- The screen of a program just started shows the initial snapshot only if it is the default. -/
theorem init_shows_iff (cfg : CoordinatorConfig) :
    AppState.init = applySnapshot .init (Coordinator.new cfg).snapshotTx ↔
      cfg.linkMode = .inverseBidirectional ∧ cfg.linkEnabled = true := by
  obtain ⟨linkMode, linkEnabled, startupAuthority, resumePolicy⟩ := cfg
  cases linkMode <;> cases linkEnabled <;>
    simp [AppState.init, applySnapshot, fromSnapshot, Coordinator.new, AppSnapshot.default,
      CoordinatorConfig.startState, toUiConnectionState, toUiMuteState, toUiLinkMode,
      toUiLinkState, formatLastSync]

/-- **The screen is current**, with nothing on its way to it, exactly if a snapshot has been
published since the start or the program started in the bidirectional mode with the link
enabled. -/
theorem screen_is_current_iff (hw : w = windowed.run (.start cfg) bs)
    (hstill : w.window.underway = []) :
    w.window.appState = applySnapshot .init w.coordinator.snapshotTx ↔
      windowed.collect Windowed.published (.start cfg) bs ≠ [] ∨
        (cfg.linkMode = .inverseBidirectional ∧ cfg.linkEnabled = true) := by
  rcases Windowed.still_cases hw hstill with ⟨hnil, hshown, hsame⟩ | ⟨hsome, hshown⟩
  · rw [hshown, hsame, hnil]
    exact (init_shows_iff cfg).trans (or_iff_right (fun hne => hne rfl)).symm
  · exact iff_of_true hshown (.inl hsome)

/-- VRChat's state comes in and is drawn. -/
theorem screen_is_current_iff_muted :
    let w := windowed.run (.start .default)
      [.turn ⟨0, 0, 7⟩ (.event (.vrChatMuteSelf .muted)), .window .publishes, .window .changed,
        .window .draws]
    w.window.appState = applySnapshot .init w.coordinator.snapshotTx :=
  (@screen_is_current_iff .default
    [.turn ⟨0, 0, 7⟩ (.event (.vrChatMuteSelf .muted)), .window .publishes, .window .changed,
      .window .draws] _ rfl rfl).mpr (.inr ⟨rfl, rfl⟩)

theorem linkState_pauseClicked (env : Env) (c : Coordinator) (appState : AppState) :
    (c.step env (.command (Dashboard.pauseClicked appState))).1.linkState = .paused ↔
      appState.linkState ≠ .paused := by
  unfold Dashboard.pauseClicked
  split_ifs with hpaused
  · have hactive : (c.step env (.command (.setPaused false))).1.linkState = .active :=
      (Coordinator.kept_resume env c).linkState
    simp [hactive, hpaused]
  · exact iff_of_true rfl hpaused

/-- **The pause button toggles**, with nothing on its way to the screen, exactly if a snapshot has
been published since the start or the program started with the link enabled: where the coordinator
takes the command that a click sends, it pauses a link that is not paused, and no other. -/
theorem pause_button_toggles_iff (hw : w = windowed.run (.start cfg) bs)
    (hstill : w.window.underway = []) (env : Env) :
    ((w.coordinator.step env
          (.command (Dashboard.pauseClicked w.window.appState))).1.linkState = .paused ↔
        w.coordinator.linkState ≠ .paused) ↔
      windowed.collect Windowed.published (.start cfg) bs ≠ [] ∨ cfg.linkEnabled = true := by
  rw [linkState_pauseClicked]
  rcases Windowed.still_cases hw hstill with ⟨hnil, hshown, hsame⟩ | ⟨hsome, hshown⟩
  · rw [hshown, hsame, hnil]
    show (Ui.LinkState.waitingForState ≠ .paused ↔ cfg.startState ≠ .paused) ↔ _
    unfold CoordinatorConfig.startState
    cases cfg.linkEnabled <;> simp
  · refine iff_of_true (not_congr ?_) (.inl hsome)
    subst hw
    have hpub := Windowed.coordinator_published_run cfg bs
    rw [hshown, hpub]
    exact toUiLinkState_inj (b := .paused)

/-- Started with the link disabled, the button asks to pause it once more. -/
theorem pause_button_toggles_iff_disabled :
    let w := Windowed.start { CoordinatorConfig.default with linkEnabled := false }
    ¬ ((w.coordinator.step ⟨0, 0, 7⟩
        (.command (Dashboard.pauseClicked w.window.appState))).1.linkState = .paused ↔
      w.coordinator.linkState ≠ .paused) := by
  intro w htoggles
  have h := (@pause_button_toggles_iff { CoordinatorConfig.default with linkEnabled := false } []
    w rfl rfl ⟨0, 0, 7⟩).mp htoggles
  rcases h with h | h
  · exact h rfl
  · cases h

end Still

/-! ### The whole system and the window -/

/-- The system with the window. -/
structure Watched where
  system : System
  window : Window

/-- What happens next. -/
inductive Sight where
  /-- Something happens to the system; a turn only when the last one is over. -/
  | happens (h : Happening × Env)
  | window (b : WindowBeat)

namespace Watched

variable (policy : EchoPolicy)

/-- One of these; it emits what is drawn. -/
def step (w : Watched) : Sight → Watched × List AppSnapshot
  | .happens h =>
    match w.system.handed h.1 with
    | none => ({ w with system := (w.system.step policy h).1 }, [])
    | some i =>
      if w.window.unsent = [] then
        ({ system := (w.system.step policy h).1
           window := { w.window with unsent := w.system.coordinator.sends h.2 i } }, [])
      else (w, [])
  | .window b => ({ w with window := (w.window.step b).1 }, (w.window.step b).2)

/-- The program just started, with the two microphones as they are. -/
def start (cfg : CoordinatorConfig) (vrchat discord : Bool) : Watched :=
  ⟨.start cfg vrchat discord, .start (Coordinator.new cfg).snapshotTx⟩

/-- The coordinator of the system, with the window. -/
def windowed (w : Watched) : Windowed := ⟨w.system.coordinator, w.window⟩

/-- What it is for the coordinator and the window. -/
def beats (w : Watched) : Sight → List Beat
  | .happens h => ((w.system.handed h.1).map (Beat.turn h.2)).toList
  | .window b => [.window b]

end Watched

/-- The system with the window as a machine; it emits what is drawn. -/
def watched (policy : EchoPolicy) : Machine Watched Sight AppSnapshot where
  step := Watched.step policy

namespace Watched

variable {policy : EchoPolicy}

theorem windowed_step (policy : EchoPolicy) (w : Watched) (m : Sight) :
    (w.step policy m).1.windowed = App.windowed.run w.windowed (w.beats m) ∧
      (w.step policy m).2 = App.windowed.outs w.windowed (w.beats m) := by
  cases m with
  | happens h =>
    have hstep := w.system.coordinator_step policy h
    simp only [step, beats]
    cases hi : w.system.handed h.1 with
    | none =>
      rw [hi] at hstep
      exact ⟨congrArg (Windowed.mk · w.window) hstep, rfl⟩
    | some i =>
      rw [hi] at hstep
      have hturn : App.windowed.step w.windowed (.turn h.2 i) =
          if w.window.unsent = [] then
            (⟨(w.system.coordinator.step h.2 i).1,
              { w.window with unsent := w.system.coordinator.sends h.2 i }⟩, [])
          else (w.windowed, []) := rfl
      simp only [Option.map_some, Option.toList_some, Machine.run_cons, Machine.run_nil,
        Machine.outs_cons, Machine.outs_nil, Machine.next, Machine.out, hturn]
      split_ifs
      · exact ⟨congrArg (Windowed.mk · _) hstep, rfl⟩
      · exact ⟨rfl, rfl⟩
  | window b => exact ⟨rfl, (List.append_nil _).symm⟩

/-- **The coordinator of the system, with the window**, runs as on its own. -/
theorem feeds :
    (watched policy).Feeds App.windowed windowed beats (watched policy).out :=
  ⟨fun w m => (w.windowed_step policy m).1, fun w m => (w.windowed_step policy m).2⟩

theorem tracks_step {w : Watched} (hw : w.system.Tracks) (m : Sight) :
    (w.step policy m).1.system.Tracks := by
  cases m with
  | happens h =>
    simp only [step]
    split
    · exact hw.after_step policy h
    · split_ifs
      · exact hw.after_step policy h
      · exact hw
  | window b => exact hw

variable (policy) in
theorem tracks_run (cfg : CoordinatorConfig) (vrchat discord : Bool) (ms : List Sight) :
    ((watched policy).run (start cfg vrchat discord) ms).system.Tracks :=
  Machine.inv_run (M := watched policy) (I := fun w => w.system.Tracks)
    (fun _ m h => tracks_step h m) (System.tracks_start cfg vrchat discord) ms

end Watched

section Texts

variable {policy : EchoPolicy} {cfg : CoordinatorConfig} {vrchat discord : Bool}
  {ms : List Sight} {w : Watched}

theorem vrchatStatusText_ofBool {appState : AppState} {muted : Bool}
    (h : appState.vrchatMute = toUiMuteState (.ofBool muted)) :
    Dashboard.vrchatStatusText appState = if muted then "status-mic-off" else "status-mic-on" := by
  unfold Dashboard.vrchatStatusText
  rw [h]
  cases muted <;> rfl

theorem known_of_vrchatStatusText {appState : AppState} {state : Core.MuteState}
    (h : appState.vrchatMute = toUiMuteState state)
    (hsaid : Dashboard.vrchatStatusText appState ≠ "status-unknown") : state ≠ .unknown := by
  rintro rfl
  apply hsaid
  rw [Dashboard.vrchatStatusText, h]
  rfl

theorem discordStatusText_ofBool {appState : AppState} {muted : Bool}
    (h : appState.discordMute = toUiMuteState (.ofBool muted)) :
    Dashboard.discordStatusText appState =
      if muted then "status-vc-muted" else "status-vc-on" := by
  unfold Dashboard.discordStatusText
  rw [h]
  cases muted <;> rfl

theorem known_of_discordStatusText {appState : AppState} {state : Core.MuteState}
    (h : appState.discordMute = toUiMuteState state)
    (hsaid : Dashboard.discordStatusText appState ≠ "status-unknown") : state ≠ .unknown := by
  rintro rfl
  apply hsaid
  rw [Dashboard.discordStatusText, h]
  rfl

/-- Something happens, with some environment. -/
def Sight.happened (h : Happening) : Sight := .happens (h, ⟨0, 0, 7⟩)

/-- A session is seeded, and the first report is drawn; the user mutes in VRChat, and the bridge
looks again when the initial sync is over. -/
def mutedSights : List Sight :=
  [.happened (.seeded .full), .happened .report, .window .publishes, .window .changed,
    .window .draws, .happened .report, .window .publishes, .happened .flipVrchat,
    .happened .muteSelf, .window .publishes, .window .publishes, .window .changed,
    .window .draws]

end Texts

end VoxShift.App
