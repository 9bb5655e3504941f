import VoxShift.Core.Peers
import VoxShift.Core.Settled
import VoxShift.Core.Snapshot
import VoxShift.Core.Turns
import VoxShift.Theory.Mirror

/-!
# The whole system

The coordinator between VRChat and Discord, with everything that can go wrong
around it: Discord sessions that open, break and are authorized in the middle,
commands that are lost or rejected, timeouts, avatar changes, a link that is
paused, resumed and switched, and a user at both microphones. `Core.Peers` is the
quiet part of it, in which the link is live and nothing fails.

## The model

* What one task reports arrives in order; there is a queue for VRChat and one for
  the Discord client and its supervisor. In which order the coordinator takes from
  them is up to the run.
* While the client seeds a session or asks for an authorization it drops what does
  not answer its own commands. A seeding ends with the reply to
  `GET_VOICE_SETTINGS`, so that nothing is missed if that gives the settings; an
  authorization that fails does not.
* `subscribe_and_seed_state` reports the commands that Discord rejects and goes on. A
  session in which it has rejected the subscription to `VOICE_SETTINGS_UPDATE` is deaf:
  the replies to its commands come in, and no event does.
* When a session breaks, what the client had not read from the pipe is lost, and so
  is what it had not read when it asks for an authorization.
* A Discord that is not authorized rejects every command and sends no event.
* VRChat reports every change of its mute, and may repeat a report; its reports arrive. A
  toggle may be lost: VRChat may not be running.

## What is proved

* `Tracks.after_step` — whatever happens next, what the coordinator holds of each
  side will be unknown or right once everything has arrived.
* `shown_is_true` — so a known state that the published snapshot shows, with nothing
  on its way from that side, is the true one; and a known Discord state means a
  session. Excepted are deaf sessions, and those in which an authorization has dropped
  events and no other has come since.
* `settled_system_inverse` — so if the link is settled as well, the two microphones
  are inverse.
-/

namespace VoxShift.Core

open VoxShift.Theory

/-! ### Reports -/

/-- What the Discord client and its supervisor tell the coordinator, apart from the status of the
voice channel. -/
inductive Report where
  | voice (frame : DiscordFrame)
  | connection (cs : ConnectionState)
  | rejected (nonce : Uuid) (message : String)
  | unavailable (message : String)
  deriving DecidableEq, Repr

/-- The frame answers a command. -/
def DiscordFrame.isReply : DiscordFrame → Bool
  | .reply _ => true
  | .event _ => false

/-- The event the coordinator is sent. -/
def Report.event : Report → CoordinatorEvent
  | .voice frame => .discordVoiceSettingsUpdate (.ofBool frame.muted)
  | .connection cs => .discordConnectionChanged cs
  | .rejected nonce message => .discordCommandAck nonce (.error message)
  | .unavailable message => .discordVoiceStateUnavailable message

/-- What a report makes of what is known of Discord. -/
def Report.after : Report → MuteState → MuteState
  | .voice frame, _ => .ofBool frame.muted
  | .connection cs, s => if cs = .connected then s else .unknown
  | .rejected _ _, s => s
  | .unavailable _, s => s

/-- What a `MuteSelf` makes of what is known of VRChat. -/
def muteSelfAfter (muted : Bool) (_ : MuteState) : MuteState := .ofBool muted

theorem setsOrKeeps_report : SetsOrKeeps Report.after := by
  intro r
  cases r with
  | voice frame => exact .inl ⟨_, rfl⟩
  | connection cs =>
    by_cases hcs : cs = .connected
    · exact .inr (funext fun _ => if_pos hcs)
    · exact .inl ⟨.unknown, funext fun _ => if_neg hcs⟩
  | rejected nonce message => exact .inr rfl
  | unavailable message => exact .inr rfl

theorem setsOrKeeps_muteSelf : SetsOrKeeps muteSelfAfter := fun _ => .inl ⟨_, rfl⟩

namespace Coordinator

theorem vrchatState_muteSelf (env : Env) (c : Coordinator) (state : MuteState) :
    (c.step env (.event (.vrChatMuteSelf state))).1.vrchatState = state := by
  show (handleVrchatMuteSelf env c state).1.vrchatState = _
  rw [handleVrchatMuteSelf_eq]
  split_ifs
  · rcases tryInitialSync_cases env (c.observeVrchat state) with ⟨-, he⟩ | ⟨-, he⟩
    · rw [he]
      exact ((kept_syncByAuthority env (c.observeVrchat state).startSync).stamp env).vrchatState
    · rw [he, observeVrchat_vrchatState]
  · rfl
  · exact (kept_syncDiscord env (c.observeVrchat state)).vrchatState

theorem discordState_muteSelf (env : Env) (c : Coordinator) (state : MuteState) :
    (c.step env (.event (.vrChatMuteSelf state))).1.discordState = c.discordState := by
  show (handleVrchatMuteSelf env c state).1.discordState = _
  rw [handleVrchatMuteSelf_eq]
  split_ifs
  · rcases tryInitialSync_cases env (c.observeVrchat state) with ⟨-, he⟩ | ⟨-, he⟩
    · rw [he]
      exact ((kept_syncByAuthority env (c.observeVrchat state).startSync).stamp env).discordState
    · rw [he, observeVrchat_discordState]
  · rfl
  · exact (kept_syncDiscord env (c.observeVrchat state)).discordState

theorem discordState_update (env : Env) (c : Coordinator) (mute : MuteState) :
    (c.step env (.event (.discordVoiceSettingsUpdate mute))).1.discordState = mute := by
  show (handleDiscordVoiceSettingsUpdate env c mute).1.discordState = _
  rw [handleDiscordVoiceSettingsUpdate_eq]
  split_ifs
  · rcases tryInitialSync_cases env (c.observeDiscord mute) with ⟨-, he⟩ | ⟨-, he⟩
    · rw [he]
      exact ((kept_syncByAuthority env (c.observeDiscord mute).startSync).stamp env).discordState
    · rw [he, observeDiscord_discordState]
  · rfl
  · rfl
  · exact (kept_syncVrchat env (c.observeDiscord mute)).discordState

theorem vrchatState_update (env : Env) (c : Coordinator) (mute : MuteState) :
    (c.step env (.event (.discordVoiceSettingsUpdate mute))).1.vrchatState = c.vrchatState := by
  show (handleDiscordVoiceSettingsUpdate env c mute).1.vrchatState = _
  rw [handleDiscordVoiceSettingsUpdate_eq]
  split_ifs
  · rcases tryInitialSync_cases env (c.observeDiscord mute) with ⟨-, he⟩ | ⟨-, he⟩
    · rw [he]
      exact ((kept_syncByAuthority env (c.observeDiscord mute).startSync).stamp env).vrchatState
    · rw [he, observeDiscord_vrchatState]
  · rfl
  · rfl
  · exact (kept_syncVrchat env (c.observeDiscord mute)).vrchatState

theorem discordState_report (env : Env) (c : Coordinator) (r : Report) :
    (c.step env (.event r.event)).1.discordState = r.after c.discordState := by
  cases r with
  | voice frame => exact discordState_update env c _
  | connection cs =>
    simp only [Report.event, Report.after, step, handleEvent, handleDiscordConnectionChanged]
    by_cases hcs : cs = .connected
    · rw [if_neg (not_not.mpr hcs), if_pos hcs]
      rfl
    · rw [if_pos hcs, if_neg hcs]
      rfl
  | rejected nonce message =>
    simp only [Report.event, Report.after, step, handleEvent, handleDiscordCommandAck]
    split_ifs <;> rfl
  | unavailable message => rfl

theorem vrchatState_report (env : Env) (c : Coordinator) (r : Report) :
    (c.step env (.event r.event)).1.vrchatState = c.vrchatState := by
  cases r with
  | voice frame => exact vrchatState_update env c _
  | connection cs =>
    simp only [Report.event, step, handleEvent, handleDiscordConnectionChanged]
    split_ifs <;> rfl
  | rejected nonce message =>
    simp only [Report.event, step, handleEvent, handleDiscordCommandAck]
    split_ifs <;> rfl
  | unavailable message => rfl

end Coordinator

/-! ### Everything else the coordinator is handed -/

/-- What the coordinator is handed that is neither a `MuteSelf` nor a report. -/
inductive Aside where
  | avatarChanged
  | vrchatConnection (cs : ConnectionState)
  | voiceChannel (inVoice : Bool)
  | command (cmd : CoordinatorCommand)
  | timeout
  deriving DecidableEq, Repr

/-- As the coordinator's `select!` is handed it. -/
def Aside.input : Aside → Input
  | .avatarChanged => .event .vrChatAvatarChanged
  | .vrchatConnection cs => .event (.vrChatConnectionChanged cs)
  | .voiceChannel inVoice => .event (.discordVoiceChannelStatus inVoice)
  | .command cmd => .command cmd
  | .timeout => .timeout

/-- At most it makes the coordinator forget. -/
theorem Coordinator.forgets_aside (env : Env) (c : Coordinator) (a : Aside) :
    ((c.step env a.input).1.vrchatState = c.vrchatState ∨
      (c.step env a.input).1.vrchatState = .unknown) ∧
    ((c.step env a.input).1.discordState = c.discordState ∨
      (c.step env a.input).1.discordState = .unknown) := by
  by_cases hi : a.input.Drives
  · rcases hi.cases with ⟨state, he⟩ | ⟨mute, he⟩ | he | he
    · cases a <;> cases he
    · cases a <;> cases he
    · rw [he]
      exact ⟨.inl (kept_resume env c).vrchatState, .inl (kept_resume env c).discordState⟩
    · rw [he]
      exact ⟨.inl (kept_manualResync env c).vrchatState,
        .inl (kept_manualResync env c).discordState⟩
  · have h := forgets_step env c hi
    exact ⟨h.vrchatState, h.discordState⟩

/-! ### The system -/

/-- What comes in of Discord in a session. -/
inductive Hearing where
  /-- Nothing: Discord is not authorized. -/
  | nothing
  /-- The replies to the client's commands. -/
  | replies
  /-- Replies and events. -/
  | events
  deriving DecidableEq, Repr

/-- How the Discord client stands. -/
inductive Session where
  /-- There is no pipe. -/
  | offline
  /-- There is a pipe, and Discord is not authorized. -/
  | waiting
  /-- The client is in `authorize_now`; what came in before. -/
  | authorizing (before : Hearing)
  /-- Discord answers, but has rejected the subscription to its events. -/
  | deaf
  /-- Discord's events come in. -/
  | live
  /-- They do, but some were dropped by a failed authorization, and none has come since. -/
  | doubtful
  deriving DecidableEq, Repr

/-- Where a failed authorization leaves the session. -/
def Hearing.session : Hearing → Session
  | .nothing => .waiting
  | .replies => .deaf
  | .events => .doubtful

/-- Discord sends its events, and the client forwards them. -/
def Session.Hears (s : Session) : Prop := s = .live ∨ s = .doubtful

instance (s : Session) : Decidable s.Hears := inferInstanceAs (Decidable (_ ∨ _))

/-- Discord takes commands and answers them. -/
def Session.Answers (s : Session) : Prop := s.Hears ∨ s = .deaf

instance (s : Session) : Decidable s.Answers := inferInstanceAs (Decidable (_ ∨ _))

/-- Discord has not been authorized in this session, or there is none. -/
def Session.Cut (s : Session) : Prop := s = .offline ∨ s = .waiting ∨ s = .authorizing .nothing

instance (s : Session) : Decidable s.Cut := inferInstanceAs (Decidable (_ ∨ _ ∨ _))

/-- Discord's events come in, and no authorization has dropped any since the last one that came
through; or there is nothing to come in. -/
def Session.Trusted (s : Session) : Prop := s = .live ∨ s.Cut

instance (s : Session) : Decidable s.Trusted := inferInstanceAs (Decidable (_ ∨ _))

/-- How Discord answers when a session is seeded. -/
structure Seeding where
  /-- It accepts the subscription to `VOICE_SETTINGS_UPDATE`. -/
  subscribed : Bool
  /-- Its reply to `GET_VOICE_SETTINGS` gives the settings. -/
  fetched : Bool
  /-- What the client reports of the commands it has rejected. -/
  complaints : List String
  deriving DecidableEq, Repr

/-- It accepts everything. -/
def Seeding.full : Seeding := ⟨true, true, []⟩

/-- What happens next. What is not possible where the session stands does nothing. -/
inductive Happening where
  /-- The user mutes or unmutes in VRChat. -/
  | flipVrchat
  /-- VRChat reports its mute once more. -/
  | repeatVrchat
  /-- The user mutes or unmutes in Discord. -/
  | flipDiscord
  /-- Another voice setting of Discord changes. -/
  | announce
  /-- The supervisor tries to connect. -/
  | connecting
  /-- It fails, and waits. -/
  | failed
  /-- A session is open and seeded. -/
  | seeded (seeding : Seeding)
  /-- A session is open, and Discord, which is not authorized, has rejected the seeding. -/
  | unseeded (complaints : List String)
  /-- The session breaks; the client had read this many of the reports. -/
  | broken (read : ℕ)
  /-- The client asks for an authorization; it had read this many of the reports. -/
  | authorize (read : ℕ)
  /-- It is authorized, and the session seeded. -/
  | authorized (seeding : Seeding)
  /-- It is not. -/
  | refused (message : String)
  /-- VRChat takes a `ToggleVoice`. -/
  | vrchat
  /-- A `ToggleVoice` comes to nothing. -/
  | toggleLost
  /-- Discord takes a `SetMute`. -/
  | discord
  /-- Discord rejects a `SetMute`. -/
  | reject (message : String)
  /-- The coordinator handles a `MuteSelf`. -/
  | muteSelf
  /-- The coordinator handles a report. -/
  | report
  /-- The coordinator handles something else. -/
  | aside (a : Aside)
  deriving DecidableEq, Repr

/-- The coordinator, its two sides and what is on its way between them. -/
structure System where
  coordinator : Coordinator
  /-- VRChat is muted. -/
  vrchat : Bool
  /-- Discord is muted. -/
  discord : Bool
  session : Session
  /-- Toggles on their way to VRChat. -/
  vrchatTx : List VrChatCommand
  /-- Commands on their way to Discord. -/
  discordTx : List DiscordCommand
  /-- What VRChat has reported and the coordinator not yet seen. -/
  muteSelfs : List Bool
  /-- What Discord, the client or the supervisor has reported and the coordinator not yet seen. -/
  reports : List Report

namespace System

/-- The coordinator's turn: what it issues goes out on its two channels. -/
def handle (env : Env) (n : System) (i : Input) : System × List Command :=
  let (c, cmds) := n.coordinator.step env i
  ({ n with
      coordinator := c
      vrchatTx := n.vrchatTx ++ cmds.filterMap Command.vrchat?
      discordTx := n.discordTx ++ cmds.filterMap Command.discord? }, cmds)

/-- VRChat changes its mute and reports it. -/
def flipVrchat (n : System) : System :=
  { n with vrchat := !n.vrchat, muteSelfs := n.muteSelfs ++ [!n.vrchat] }

/-- VRChat reports its mute once more. -/
def repeatVrchat (n : System) : System := { n with muteSelfs := n.muteSelfs ++ [n.vrchat] }

/-- Discord sets its mute and sends frames that say so, if there is anyone to hear them. -/
def setDiscord (n : System) (muted : Bool) (frames : List DiscordFrame) : System :=
  if n.session.Hears then
    { n with discord := muted, session := .live, reports := n.reports ++ frames.map .voice }
  else if n.session = .deaf then
    { n with
      discord := muted
      reports := n.reports ++ (frames.filter DiscordFrame.isReply).map .voice }
  else { n with discord := muted }

/-- What the client forwards of the reply to `GET_VOICE_SETTINGS`. -/
def fetched (n : System) (seeding : Seeding) : List Report :=
  if seeding.fetched then [.voice (.reply n.discord)] else []

/-- A session is seeded, and `after` sent when it is. -/
def seed (n : System) (seeding : Seeding) (after : List Report) : System :=
  { n with
    session :=
      if seeding.subscribed then
        if seeding.fetched = true ∨ n.session.Cut then .live else .doubtful
      else .deaf
    reports := n.reports ++ seeding.complaints.map .unavailable ++ n.fetched seeding ++ after }

/-- What happens to the session. -/
def stepSession (n : System) : Happening → System
  | .connecting =>
    if n.session = .offline then { n with reports := n.reports ++ [.connection .connecting] }
    else n
  | .failed =>
    if n.session = .offline then { n with reports := n.reports ++ [.connection .disconnected] }
    else n
  | .seeded seeding =>
    if n.session = .offline then n.seed seeding [.connection .connected] else n
  | .unseeded complaints =>
    if n.session = .offline then
      { n with
        session := .waiting
        reports := n.reports ++ complaints.map .unavailable ++ [.connection .connected] }
    else n
  | .broken read =>
    match n.session with
    | .waiting | .deaf | .live | .doubtful =>
      { n with
        session := .offline
        reports := n.reports.take read ++ [.connection .disconnected] }
    | .offline | .authorizing _ => n
  | .authorize read =>
    match n.session with
    | .waiting => { n with session := .authorizing .nothing }
    | .deaf => { n with session := .authorizing .replies, reports := n.reports.take read }
    | .live | .doubtful =>
      { n with session := .authorizing .events, reports := n.reports.take read }
    | .offline | .authorizing _ => n
  | .authorized seeding =>
    match n.session with
    -- a subscription made before in this session stands
    | .authorizing .events => n.seed { seeding with subscribed := true } []
    | .authorizing _ => n.seed seeding []
    | .offline | .waiting | .deaf | .live | .doubtful => n
  | .refused message =>
    match n.session with
    | .authorizing before =>
      { n with session := before.session, reports := n.reports ++ [.unavailable message] }
    | .offline | .waiting | .deaf | .live | .doubtful => n
  | _ => n

/-- One happening; it emits what the coordinator issues. -/
def step (policy : EchoPolicy) (n : System) (h : Happening × Env) : System × List Command :=
  match h.1 with
  | .flipVrchat => (n.flipVrchat, [])
  | .repeatVrchat => (n.repeatVrchat, [])
  | .flipDiscord => (n.setDiscord (!n.discord) [.event (!n.discord)], [])
  | .announce => (n.setDiscord n.discord [.event n.discord], [])
  | .vrchat =>
    match n.vrchatTx with
    | [] => (n, [])
    | _ :: rest => (flipVrchat { n with vrchatTx := rest }, [])
  | .toggleLost => ({ n with vrchatTx := n.vrchatTx.tail }, [])
  | .discord =>
    match n.discordTx with
    | [] => (n, [])
    | cmd :: rest =>
      if n.session.Answers then
        let muted := (Discord.handleDiscordCommand cmd).args.mute
        (setDiscord { n with discordTx := rest } muted (policy.answer n.discord muted), [])
      else (n, [])
  | .reject message =>
    match n.discordTx with
    | [] => (n, [])
    | .setMute _ nonce :: rest =>
      if n.session.Answers ∨ n.session = .waiting then
        ({ n with discordTx := rest, reports := n.reports ++ [.rejected nonce message] }, [])
      else (n, [])
  | .muteSelf =>
    match n.muteSelfs with
    | [] => (n, [])
    | muted :: rest =>
      handle h.2 { n with muteSelfs := rest } (.event (.vrChatMuteSelf (.ofBool muted)))
  | .report =>
    match n.reports with
    | [] => (n, [])
    | r :: rest => handle h.2 { n with reports := rest } (.event r.event)
  | .aside a => handle h.2 n a.input
  | h => (n.stepSession h, [])

/-- What the coordinator is handed, if it is its turn. -/
def handed (n : System) : Happening → Option Input
  | .muteSelf => n.muteSelfs.head?.map fun muted => .event (.vrChatMuteSelf (.ofBool muted))
  | .report => n.reports.head?.map fun r => .event r.event
  | .aside a => some a.input
  | _ => none

/-- The program just started, with the two microphones as they are. -/
def start (cfg : CoordinatorConfig) (vrchat discord : Bool) : System where
  coordinator := .new cfg
  vrchat := vrchat
  discord := discord
  session := .offline
  vrchatTx := []
  discordTx := []
  muteSelfs := []
  reports := []

/-! ### What the coordinator holds -/

/-- Once everything has arrived, what the coordinator holds of VRChat will be unknown or right, and
so will what it holds of Discord; unknown, if Discord is not authorized. -/
structure Tracks (n : System) : Prop where
  vrchat : Told muteSelfAfter .unknown (.ofBool n.vrchat) n.coordinator.vrchatState n.muteSelfs
  live : n.session = .live →
    Told Report.after .unknown (.ofBool n.discord) n.coordinator.discordState n.reports
  cut : n.session.Cut →
    Told Report.after .unknown .unknown n.coordinator.discordState n.reports

theorem tracks_start (cfg : CoordinatorConfig) (vrchat discord : Bool) :
    (start cfg vrchat discord).Tracks :=
  ⟨.inl rfl, fun _ => .inl rfl, fun _ => .inl rfl⟩

/-! #### One happening -/

section Steps

variable {n : System}

/-- Of a session in which nothing is cut off and nothing is sure. -/
theorem Tracks.of_vrchat
    (hv : Told muteSelfAfter .unknown (.ofBool n.vrchat) n.coordinator.vrchatState n.muteSelfs)
    (hlive : n.session ≠ .live) (hcut : ¬ n.session.Cut) : n.Tracks :=
  ⟨hv, fun h => absurd h hlive, fun h => absurd h hcut⟩

/-- Of a session that is cut off. -/
theorem Tracks.of_cut
    (hv : Told muteSelfAfter .unknown (.ofBool n.vrchat) n.coordinator.vrchatState n.muteSelfs)
    (hcut : n.session.Cut)
    (hd : Told Report.after .unknown .unknown n.coordinator.discordState n.reports) : n.Tracks := by
  refine ⟨hv, fun hlive => ?_, fun _ => hd⟩
  rw [hlive] at hcut
  simp [Session.Cut] at hcut

theorem Tracks.flipVrchat (h : n.Tracks) : n.flipVrchat.Tracks :=
  ⟨Told.made fun _ => rfl, h.live, h.cut⟩

/-- Discord's frames end with one that carries its new state. -/
theorem Tracks.setDiscord (h : n.Tracks) {muted : Bool} {frames before : List DiscordFrame}
    {last : DiscordFrame} (hframes : frames = before ++ [last]) (hlast : last.muted = muted) :
    (n.setDiscord muted frames).Tracks := by
  unfold System.setDiscord
  split_ifs with hs
  · refine ⟨h.vrchat, fun _ => ?_, fun hcut => ?_⟩
    · rw [hframes, List.map_append, ← List.append_assoc]
      exact Told.made fun _ => congrArg MuteState.ofBool hlast
    · simp [Session.Cut] at hcut
  · next hdeaf =>
    exact Tracks.of_vrchat h.vrchat (by simp [hdeaf]) (by simp [hdeaf, Session.Cut])
  · refine ⟨h.vrchat, fun hlive => ?_, h.cut⟩
    exact absurd (Or.inl hlive) hs

theorem answer_eq_concat (policy : EchoPolicy) (old new : Bool) :
    ∃ before last, policy.answer old new = before ++ [last] ∧ last.muted = new := by
  unfold EchoPolicy.answer
  split_ifs
  · exact ⟨[.reply new], .event new, rfl, rfl⟩
  · exact ⟨[], .reply new, rfl, rfl⟩

theorem Report.after_of_mem_complaints {complaints : List String} {r : Report}
    (h : r ∈ complaints.map Report.unavailable) : r.after = id := by
  obtain ⟨complaint, -, rfl⟩ := List.mem_map.mp h
  rfl

/-- A session that is seeded has been given the settings, or nothing is known, or it is not to be
trusted. -/
theorem Tracks.seed (h : n.Tracks) (seeding : Seeding) {after : List Report}
    (hafter : ∀ r ∈ after, r.after = id) : (n.seed seeding after).Tracks := by
  have hsoon : soon Report.after n.coordinator.discordState (n.seed seeding after).reports =
      soon Report.after (soon Report.after n.coordinator.discordState n.reports)
        (n.fetched seeding) := by
    rw [System.seed, soon_append, soon_of_keeps hafter, soon_append, soon_append,
      soon_of_keeps fun r => Report.after_of_mem_complaints]
  refine ⟨h.vrchat, fun hlive => ?_, fun hcut => ?_⟩
  · unfold Told
    show soon Report.after n.coordinator.discordState (n.seed seeding after).reports = _ ∨
      soon Report.after n.coordinator.discordState (n.seed seeding after).reports = _
    rw [hsoon]
    by_cases hfetched : seeding.fetched = true
    · rw [System.fetched, if_pos hfetched]
      exact .inr rfl
    · -- without the settings the session is live only where nothing is known
      have hcut : n.session.Cut := by
        simp only [System.seed, hfetched, Bool.false_eq_true, false_or] at hlive
        split_ifs at hlive with _ hcut
        exact hcut
      rw [System.fetched, if_neg hfetched]
      exact .inl (or_self_iff.mp (h.cut hcut))
  · simp only [System.seed] at hcut
    split_ifs at hcut <;> simp [Session.Cut] at hcut

/-- Whatever happens to the session. -/
theorem Tracks.stepSession (h : n.Tracks) (m : Happening) : (n.stepSession m).Tracks := by
  cases m with
  | connecting | failed =>
    simp only [System.stepSession]
    split_ifs with hs
    · exact Tracks.of_cut h.vrchat (.inl hs) (Told.lost (fun _ => rfl) _)
    · exact h
  | seeded seeding =>
    simp only [System.stepSession]
    split_ifs
    · exact h.seed _ fun r hr => by rw [List.mem_singleton.mp hr]; rfl
    · exact h
  | unseeded complaints =>
    simp only [System.stepSession]
    split_ifs with hs
    · refine Tracks.of_cut h.vrchat (.inr (.inl rfl)) ?_
      have hcut : Told Report.after .unknown .unknown n.coordinator.discordState n.reports :=
        h.cut (.inl hs)
      refine Told.unrelated ?_ rfl
      unfold Told at hcut ⊢
      rw [soon_append, soon_of_keeps fun r => Report.after_of_mem_complaints]
      exact hcut
    · exact h
  | broken read =>
    simp only [System.stepSession]
    split
    iterate 4
      exact Tracks.of_cut h.vrchat (.inl rfl) (Told.lost (fun _ => rfl) _)
    · exact h
    · exact h
  | authorize read =>
    simp only [System.stepSession]
    split
    · next hs =>
      exact Tracks.of_cut h.vrchat (.inr (.inr rfl)) (h.cut (.inr (.inl hs)))
    iterate 3
      exact Tracks.of_vrchat h.vrchat (by simp) (by simp [Session.Cut])
    · exact h
    · exact h
  | authorized seeding =>
    simp only [System.stepSession]
    split
    iterate 2
      exact h.seed _ nofun
    all_goals exact h
  | refused message =>
    simp only [System.stepSession]
    split
    · next before hs =>
      cases before with
      | nothing =>
        exact Tracks.of_cut h.vrchat (.inr (.inl rfl)) (Told.unrelated (h.cut (.inr (.inr hs))) rfl)
      | replies | events =>
        exact Tracks.of_vrchat h.vrchat (by simp [Hearing.session])
          (by simp [Hearing.session, Session.Cut])
    all_goals exact h
  | flipVrchat | repeatVrchat | flipDiscord | announce | vrchat | toggleLost | discord | reject _
  | muteSelf | report | aside _ => exact h

/-- A turn of the coordinator, on what has just been taken from the queues. -/
theorem Tracks.handle (h : n.Tracks) (env : Env) {i : Input} {muteSelfs : List Bool}
    {reports : List Report}
    (hv : Told muteSelfAfter .unknown (.ofBool n.vrchat) n.coordinator.vrchatState n.muteSelfs →
      Told muteSelfAfter .unknown (.ofBool n.vrchat) (n.coordinator.step env i).1.vrchatState
        muteSelfs)
    (hd : ∀ value, Told Report.after .unknown value n.coordinator.discordState n.reports →
      Told Report.after .unknown value (n.coordinator.step env i).1.discordState reports) :
    (System.handle env { n with muteSelfs := muteSelfs, reports := reports } i).1.Tracks :=
  ⟨hv h.vrchat, fun hlive => hd _ (h.live hlive), fun hcut => hd _ (h.cut hcut)⟩

variable (policy : EchoPolicy)

/-- **One happening**: what the coordinator holds of each side stays on its way to being unknown or
right. -/
theorem Tracks.after_step (h : n.Tracks) (m : Happening × Env) : (n.step policy m).1.Tracks := by
  obtain ⟨m, env⟩ := m
  cases m with
  | flipVrchat => exact h.flipVrchat
  | repeatVrchat => exact ⟨Told.made fun _ => rfl, h.live, h.cut⟩
  | flipDiscord | announce => exact h.setDiscord (List.nil_append [_]).symm rfl
  | vrchat =>
    simp only [System.step]
    rcases n.vrchatTx with _ | ⟨cmd, rest⟩
    · exact h
    · exact Tracks.flipVrchat ⟨h.vrchat, h.live, h.cut⟩
  | toggleLost => exact ⟨h.vrchat, h.live, h.cut⟩
  | discord =>
    simp only [System.step]
    rcases n.discordTx with _ | ⟨cmd, rest⟩
    · exact h
    · simp only
      split_ifs
      · have hrest : ({ n with discordTx := rest } : System).Tracks := ⟨h.vrchat, h.live, h.cut⟩
        obtain ⟨before, last, hframes, hlast⟩ :=
          answer_eq_concat policy n.discord (Discord.handleDiscordCommand cmd).args.mute
        exact hrest.setDiscord hframes hlast
      · exact h
  | reject message =>
    simp only [System.step]
    rcases n.discordTx with _ | ⟨⟨target, nonce⟩, rest⟩
    · exact h
    · simp only
      split_ifs
      · exact ⟨h.vrchat, fun hlive => (h.live hlive).unrelated rfl,
          fun hcut => (h.cut hcut).unrelated rfl⟩
      · exact h
  | muteSelf =>
    simp only [System.step]
    rcases hq : n.muteSelfs with _ | ⟨muted, rest⟩
    · exact h
    · refine h.handle env (fun hv => ?_) (fun value hd => ?_)
      · rw [hq] at hv
        exact hv.taken (n.coordinator.vrchatState_muteSelf env _)
      · rw [n.coordinator.discordState_muteSelf]
        exact hd
  | report =>
    simp only [System.step]
    rcases hq : n.reports with _ | ⟨r, rest⟩
    · exact h
    · refine h.handle env (fun hv => ?_) (fun value hd => ?_)
      · rw [n.coordinator.vrchatState_report]
        exact hv
      · rw [hq] at hd
        exact hd.taken (n.coordinator.discordState_report env r)
  | aside a =>
    obtain ⟨hv, hd⟩ := n.coordinator.forgets_aside env a
    exact h.handle env (fun htold => htold.forgotten setsOrKeeps_muteSelf hv)
      (fun value htold => htold.forgotten setsOrKeeps_report hd)
  | connecting => exact h.stepSession .connecting
  | failed => exact h.stepSession .failed
  | seeded seeding => exact h.stepSession (.seeded seeding)
  | unseeded complaints => exact h.stepSession (.unseeded complaints)
  | broken read => exact h.stepSession (.broken read)
  | authorize read => exact h.stepSession (.authorize read)
  | authorized seeding => exact h.stepSession (.authorized seeding)
  | refused message => exact h.stepSession (.refused message)

theorem coordinator_step (n : System) (m : Happening × Env) :
    (n.step policy m).1.coordinator =
      (n.handed m.1).elim n.coordinator fun i => (n.coordinator.step m.2 i).1 := by
  obtain ⟨m, env⟩ := m
  cases m with
  | flipVrchat | repeatVrchat | toggleLost | aside a => rfl
  | flipDiscord | announce =>
    simp only [System.step, System.setDiscord]
    split_ifs <;> rfl
  | vrchat =>
    simp only [System.step]
    rcases n.vrchatTx with _ | ⟨cmd, rest⟩ <;> rfl
  | discord =>
    simp only [System.step, System.setDiscord]
    rcases n.discordTx with _ | ⟨cmd, rest⟩
    · rfl
    · simp only
      split_ifs <;> rfl
  | reject message =>
    simp only [System.step]
    rcases n.discordTx with _ | ⟨⟨target, nonce⟩, rest⟩
    · rfl
    · simp only
      split_ifs <;> rfl
  | muteSelf =>
    simp only [System.step, handed]
    rcases n.muteSelfs with _ | ⟨muted, rest⟩ <;> rfl
  | report =>
    simp only [System.step, handed]
    rcases n.reports with _ | ⟨r, rest⟩ <;> rfl
  | connecting | failed | seeded _ | unseeded _ =>
    simp only [System.step, System.stepSession]
    split_ifs <;> rfl
  | broken _ | authorize _ | authorized _ | refused _ =>
    simp only [System.step, System.stepSession]
    split <;> rfl

theorem eq_aside_of_handed {n : System} {m : Happening} {cmd : CoordinatorCommand}
    (h : n.handed m = some (.command cmd)) : m = .aside (.command cmd) := by
  cases m with
  | muteSelf =>
    simp only [handed, Option.map_eq_some_iff] at h
    obtain ⟨muted, -, he⟩ := h
    cases he
  | report =>
    simp only [handed, Option.map_eq_some_iff] at h
    obtain ⟨r, -, he⟩ := h
    cases he
  | aside a =>
    cases a <;> cases h
    rfl
  | _ => cases h

end Steps

end System

/-- The system as a machine; it emits what the coordinator issues. -/
def system (policy : EchoPolicy) : Machine System (Happening × Env) Command where
  step := System.step policy

namespace System

/-! ### Every run -/

/-- With no `MuteSelf` on its way, what is known of VRChat is true. -/
theorem Tracks.vrchat_eq {n : System} (h : n.Tracks) (hq : n.muteSelfs = [])
    (hv : n.coordinator.vrchatState ≠ .unknown) : n.coordinator.vrchatState = .ofBool n.vrchat := by
  have htold := h.vrchat
  rw [hq] at htold
  exact htold.arrived.resolve_left hv

/-- With no report on its way, what is known of Discord is true, and there is a session. -/
theorem Tracks.discord_eq {n : System} (h : n.Tracks) (hq : n.reports = [])
    (htrust : n.session.Trusted) (hd : n.coordinator.discordState ≠ .unknown) :
    n.session = .live ∧ n.coordinator.discordState = .ofBool n.discord := by
  have hcut : ¬ n.session.Cut := by
    intro hcut
    have htold := h.cut hcut
    rw [hq] at htold
    exact hd (or_self_iff.mp htold.arrived)
  have hlive : n.session = .live := htrust.resolve_right hcut
  have htold := h.live hlive
  rw [hq] at htold
  exact ⟨hlive, htold.arrived.resolve_left hd⟩

variable (policy : EchoPolicy)

theorem tracks_run (cfg : CoordinatorConfig) (vrchat discord : Bool) (hs : List (Happening × Env)) :
    ((system policy).run (start cfg vrchat discord) hs).Tracks :=
  Machine.inv_run (fun _ m h => h.after_step policy m) (tracks_start cfg vrchat discord) hs

/-- What the coordinator's turns keep, the system keeps. -/
theorem inv_coordinator {I : Coordinator → Prop} {P : Happening → Prop}
    (hstep : ∀ c env i, I c → (∀ cmd, i = .command cmd → P (.aside (.command cmd))) →
      I (c.step env i).1)
    {n : System} (hn : I n.coordinator) {hs : List (Happening × Env)} (hhs : ∀ h ∈ hs, P h.1) :
    I ((system policy).run n hs).coordinator := by
  refine ((system policy).along_of_forall (P := fun m => P m.1) n hhs).inv
    (I := fun n : System => I n.coordinator) ?_ hn
  intro n m hI hP
  show I (n.step policy m).1.coordinator
  rw [n.coordinator_step policy m]
  cases hi : n.handed m.1 with
  | none => exact hI
  | some i =>
    refine hstep _ _ _ hI fun cmd he => ?_
    rw [he] at hi
    exact eq_aside_of_handed hi ▸ hP

end System

/-- The happenings of a list, with some environment. -/
def Happening.list (hs : List Happening) : List (Happening × Env) := hs.map (·, ⟨0, 0, 7⟩)

/-- A deaf session: the user unmutes in Discord, and the snapshot goes on saying muted. -/
example :
    let n := (system .onChange).run (.start .default false true)
      (Happening.list [.seeded ⟨false, true, []⟩, .report, .report, .flipDiscord])
    n.reports = [] ∧ n.discord = false ∧ n.coordinator.snapshotTx.discordMute = .muted := by
  decide

/-- A session is seeded, VRChat is muted and Discord is told to follow; the pipe breaks while it
answers, and a second session is seeded. -/
def reopened : List (Happening × Env) :=
  Happening.list [.seeded .full, .report, .report, .flipVrchat, .muteSelf, .discord, .broken 0,
    .report, .seeded .full, .report, .report]

end VoxShift.Core
