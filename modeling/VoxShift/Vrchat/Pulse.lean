import VoxShift.Core.State
import VoxShift.Theory.Transit

/-!
# The pulses that toggle the microphone

`voxshift-vrchat`'s `osc_sender.rs`: `send_toggle_voice`, which presses the button
`/input/Voice` and releases it again, and `run_command_loop` around it.

## The model

* A `send` fails, or it succeeds, and then the packet arrives or is lost on the way.
* VRChat toggles the microphone when the button goes down, and not while it is held, as it
  does with Toggle Voice enabled.

## What is proved

* `silent_misses_le` — in every run, the commands that the loop took for sent and that did
  not toggle the microphone are no more than those it reported as failed, and the packets
  lost on the way.
-/

namespace VoxShift.Vrchat

open VoxShift.Core VoxShift.Theory

/-- How a `send` goes. -/
inductive Sent where
  | arrives
  | lost
  | fails
  deriving DecidableEq, Repr

/-- VRChat: the button, and the microphone. -/
structure Button where
  pressed : Bool
  muted : Bool
  deriving DecidableEq, Repr

/-- VRChat gets a value for `/input/Voice`. -/
def Button.receive (b : Button) (value : ℕ) : Button :=
  match value, b.pressed with
  | 1, false => ⟨true, !b.muted⟩
  | 1, true => b
  | _, _ => { b with pressed := false }

/-- `send_voice_value`; whether it succeeds. -/
def sendVoiceValue (b : Button) (value : ℕ) : Sent → Bool × Button
  | .arrives => (true, b.receive value)
  | .lost => (true, b)
  | .fails => (false, b)

/-- How the two sends of a pulse go. -/
structure Pulse where
  press : Sent
  release : Sent
  deriving DecidableEq, Repr

/-- `send_toggle_voice`. -/
def sendToggleVoice (b : Button) (p : Pulse) : Bool × Button :=
  match sendVoiceValue b 1 p.press with
  | (true, b) => sendVoiceValue b 0 p.release
  | (false, b) => (false, b)

/-- `run_command_loop`: a command is taken. -/
def runCommand (b : Button) (p : Pulse) : Button × List CoordinatorEvent :=
  match sendToggleVoice b p with
  | (true, b) => (b, [])
  | (false, b) => (b, [.vrChatConnectionChanged .degraded])

/-- The command loop and VRChat as a machine. -/
def commandLoop : Machine Button Pulse CoordinatorEvent where
  step := runCommand

/-- The sends of a pulse. -/
def Pulse.sends (p : Pulse) : List Sent :=
  if p.press = .fails then [p.press] else [p.press, p.release]

/-- A command that the loop takes for sent, and that does not toggle the microphone. -/
def silentMiss (b : Button) (p : Pulse) : List Pulse :=
  if (sendToggleVoice b p).1 = true ∧ (sendToggleVoice b p).2.muted = b.muted then [p] else []

/-- A button that is held swallows the next press. -/
def Button.held (b : Button) : ℕ := if b.pressed then 1 else 0

/-- **One command**: a miss is paid for by a report or by a loss, now or when the button was left
held. -/
theorem silentMiss_step (b : Button) (p : Pulse) :
    (silentMiss b p).length + (commandLoop.next b p).held ≤
      b.held + (commandLoop.out b p).length + p.sends.count .lost := by
  obtain ⟨pressed, muted⟩ := b
  obtain ⟨press, release⟩ := p
  cases pressed <;> cases muted <;> cases press <;> cases release <;> decide

theorem silentMisses_le (b : Button) (ps : List Pulse) :
    (commandLoop.collect silentMiss b ps).length + (commandLoop.run b ps).held ≤
      b.held + (commandLoop.outs b ps).length + (ps.flatMap Pulse.sends).count .lost := by
  induction ps generalizing b with
  | nil => simp
  | cons p ps ih =>
    have hstep := silentMiss_step b p
    have hrest := ih (commandLoop.next b p)
    simp only [Machine.collect_cons, Machine.run_cons, Machine.outs_cons, List.length_append,
      List.flatMap_cons, List.count_append]
    omega

/-- **Misses are reported or lost.** Let Toggle Voice be enabled in VRChat. In every run that starts
with the button released, of any commands and whatever comes of their sends, the commands that were
taken for sent and did not toggle the microphone are no more than the commands reported as failed,
and the packets lost. -/
theorem silent_misses_le (muted : Bool) (ps : List Pulse) :
    (commandLoop.collect silentMiss ⟨false, muted⟩ ps).length ≤
      (commandLoop.outs ⟨false, muted⟩ ps).length + (ps.flatMap Pulse.sends).count .lost := by
  have h := silentMisses_le ⟨false, muted⟩ ps
  simp only [Button.held, Bool.false_eq_true, if_false, Nat.zero_add] at h
  omega

/-- A release that fails is reported, and the toggle has been made; the next one is taken for sent,
and is not made. -/
example :
    let pulses : List Pulse := [⟨.arrives, .fails⟩, ⟨.arrives, .arrives⟩]
    commandLoop.outs ⟨false, false⟩ pulses = [.vrChatConnectionChanged .degraded] ∧
      (commandLoop.run ⟨false, false⟩ pulses).muted = true ∧
      commandLoop.collect silentMiss ⟨false, false⟩ pulses = [⟨.arrives, .arrives⟩] :=
  ⟨rfl, rfl, rfl⟩

end VoxShift.Vrchat
