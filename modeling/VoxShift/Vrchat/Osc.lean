import VoxShift.App.Delivery

/-!
# OSC packets from VRChat

`voxshift-vrchat`'s `osc_receiver.rs`: `receive_loop`, from the socket to the events that it
sends.

## The model

* The decoder of `rosc` is a parameter. A packet that it returns is a message, or a bundle
  of packets.
* The loop is the one in `App/Worker`; while it still has events to send, it takes nothing
  from the socket.

## What is proved

* `flattenMessages_eq` — the messages of a packet, however its bundles are nested, in their
  order.
* `packets_reach_coordinator` — in every run of the worker, the coordinator is handed once,
  in order, what the messages from this machine say, and nothing else of these kinds.
-/

namespace VoxShift.Vrchat

open VoxShift.App VoxShift.Core VoxShift.Discord VoxShift.Theory

/-- `OscType`, as far as `interpret_message` looks at it. -/
inductive OscType where
  | bool (b : Bool)
  | other (tag : Char)
  deriving DecidableEq, Repr

/-- `OscMessage`. -/
structure OscMessage where
  addr : String
  args : List OscType
  deriving DecidableEq, Repr

/-- `OscPacket`. -/
inductive OscPacket where
  | message (msg : OscMessage)
  | bundle (content : List OscPacket)

/-- `ADDR_MUTE_SELF`. -/
def ADDR_MUTE_SELF : String := "/avatar/parameters/MuteSelf"

/-- `ADDR_AVATAR_CHANGE`. -/
def ADDR_AVATAR_CHANGE : String := "/avatar/change"

/-- `interpret_message`. -/
def interpretMessage (msg : OscMessage) : Option ParsedOscEvent :=
  if msg.addr = ADDR_MUTE_SELF then
    match msg.args.head? with
    | some (.bool true) => some (.muteSelf .muted)
    | some (.bool false) => some (.muteSelf .unmuted)
    | _ => none
  else if msg.addr = ADDR_AVATAR_CHANGE then some .avatarChanged
  else none

mutual

/-- `flatten_messages`; the messages are put behind `out`. -/
def flattenMessages : OscPacket → List OscMessage → List OscMessage
  | .message msg, out => out ++ [msg]
  | .bundle content, out => flattenContent content out

/-- The loop of `flatten_messages` over the content of a bundle. -/
def flattenContent : List OscPacket → List OscMessage → List OscMessage
  | [], out => out
  | inner :: content, out => flattenContent content (flattenMessages inner out)

end

/-- A datagram: the address it comes from, and its bytes. -/
structure Datagram where
  src : BitVec 32
  data : List UInt8

/-- `Ipv4Addr::is_loopback`: `127.0.0.0/8`. -/
def Datagram.isLoopback (g : Datagram) : Bool := g.src.extractLsb' 24 8 == 127#8

section Socket

variable (decodeUdp : List UInt8 → Option OscPacket)

/-- The packet that `receive_loop` takes from what `recv_from` returns, if it takes one. -/
def accepted : Option Datagram → Option OscPacket
  | none => none
  | some g => if g.isLoopback then decodeUdp g.data else none

/-- What `receive_loop` makes of a packet. -/
def parsed (packet : OscPacket) : List ParsedOscEvent :=
  (flattenMessages packet []).filterMap interpretMessage

/-- What happens to the worker, with the socket in front of the receive loop. -/
inductive SocketMove where
  /-- `recv_from` returns. -/
  | received (g : Option Datagram)
  /-- A move of the worker other than the arrival of a packet. -/
  | other (m : {m : WorkerMove // ∀ messages, m ≠ .packet messages})

/-- The move of the worker. -/
def SocketMove.toWorker : SocketMove → WorkerMove
  | .received g => .packet (((accepted decodeUdp g).map parsed).getD [])
  | .other m => m.1

/-- The worker, on what comes over the socket. -/
def socketWorker (cfg : AuthConfig) (parseUuid : String → Option Uuid) :
    Machine Worker SocketMove Output where
  step w m := w.step cfg parseUuid (m.toWorker decodeUdp)

/-- The packet that `receive_loop` takes on a move. -/
def SocketMove.taken (w : Worker) : SocketMove → List OscPacket
  | .received g => if w.forwarding = [] then (accepted decodeUdp g).toList else []
  | .other _ => []

end Socket

/-! ### The messages of a packet -/

mutual

/-- The messages of a packet. -/
def OscPacket.messages : OscPacket → List OscMessage
  | .message msg => [msg]
  | .bundle content => messagesOf content

/-- The messages of the content of a bundle. -/
def messagesOf : List OscPacket → List OscMessage
  | [] => []
  | inner :: content => inner.messages ++ messagesOf content

end

mutual

/-- **However the bundles are nested**, the messages come out in their order. -/
theorem flattenMessages_eq :
    ∀ (packet : OscPacket) (out : List OscMessage),
      flattenMessages packet out = out ++ packet.messages
  | .message _, _ => rfl
  | .bundle content, out => flattenContent_eq content out

theorem flattenContent_eq :
    ∀ (content : List OscPacket) (out : List OscMessage),
      flattenContent content out = out ++ messagesOf content
  | [], out => (List.append_nil out).symm
  | inner :: content, out => by
    rw [flattenContent, flattenMessages_eq, flattenContent_eq, messagesOf, List.append_assoc]

end

/-- The events of a packet. -/
def OscPacket.events (packet : OscPacket) : List CoordinatorEvent :=
  (packet.messages.filterMap interpretMessage).map ParsedOscEvent.event

theorem parsed_event (packet : OscPacket) :
    (parsed packet).map ParsedOscEvent.event = packet.events := by
  rw [parsed, flattenMessages_eq, List.nil_append, OscPacket.events]

section Runs

variable (decodeUdp : List UInt8 → Option OscPacket) (cfg : AuthConfig)
  (parseUuid : String → Option Uuid)

theorem posts_taken (w : Worker) (m : SocketMove) :
    w.posts cfg parseUuid .receiveLoop (m.toWorker decodeUdp) =
      (m.taken decodeUdp w).flatMap OscPacket.events := by
  cases m with
  | received g =>
    simp only [SocketMove.toWorker, SocketMove.taken, Worker.posts]
    split_ifs
    · cases accepted decodeUdp g with
      | none => rfl
      | some packet => simpa using parsed_event packet
    · rfl
  | other m =>
    obtain ⟨m, hm⟩ := m
    cases m with
    | packet messages => exact absurd rfl (hm messages)
    | turn _ _ | issue | discord _ | report | forward | toggle _ | degrade => rfl

/-- **Nothing from VRChat is lost, repeated or made up.** In every run of the worker, whatever comes
over the socket and whichever task goes on, the events of VRChat that the coordinator has been
handed, then those in the event channel, then those the receive loop has still to send are, in
order, what the messages say of the packets that the loop has taken: those from this machine that
can be decoded. -/
theorem packets_reach_coordinator (config : CoordinatorConfig) (ms : List SocketMove) :
    let M := socketWorker decodeUdp cfg parseUuid
    let w := M.run (.start config) ms
    M.collect (fun w m => w.handed .receiveLoop (m.toWorker decodeUdp)) (.start config) ms ++
        (w.events.items.filter (origin · = .receiveLoop) ++ w.forwarding) =
      (M.collect (fun w m => m.taken decodeUdp w) (.start config) ms).flatMap
        OscPacket.events := by
  intro M w
  have hall : M.Along (fun _ _ => True) (.start config) ms :=
    M.along_all (fun _ _ => trivial) _ _
  have hstep : M.Along (fun w m => w.inTransit .receiveLoop ++
      (m.taken decodeUdp w).flatMap OscPacket.events =
        w.handed .receiveLoop (m.toWorker decodeUdp) ++ (M.next w m).inTransit .receiveLoop)
      (.start config) ms := by
    refine Machine.Along.mono_of_inv (M := M) (I := Worker.Sorted)
      (fun _ m h _ => h.step (m.toWorker decodeUdp)) (fun w m h _ => ?_) hall
      (Worker.sorted_start config)
    rw [← posts_taken decodeUdp cfg parseUuid]
    exact Worker.conserved_step .receiveLoop h _
  rw [Machine.flatMap_collect]
  exact hstep.conserved.symm

end Runs

end VoxShift.Vrchat
