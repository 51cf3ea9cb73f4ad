import MultipathFabric.Socket

/-!
A session that works off the frames of its peer: what it does depends on the messages alone, not on how their bytes
arrive.
-/

namespace MultipathFabric

open ByteCodec Wire

/-- What the coordinator is at when a session gets to a frame: the engine as the other sessions have left it, the
external source of path authority, and whether the answer can be sent. -/
structure Turn where
  engine : FabricEngine
  external : PathId → Option PathAuthorityView
  sends : Bool

namespace Connection

/-- The announcement of the session and of the governing epoch. The writer is not asked whether all of it has fitted. -/
def helloAck (limits : Limits) (c : Connection) : Checked Bytes :=
  let w := (ByteWriter.start 64).writeAll [.string c.session.id.view 128, .u64 c.engine.currentEpoch.value]
  encodeFrame .helloAck w.buffer limits.maxFrameBytes

def answerFrame (limits : Limits) (c : Connection) (handled : HandledFrame) (received : ReceivedFrame) :
    Option Bytes :=
  match received, handled.reply with
  | .frame .hello _, _ => (c.helloAck limits).toOption
  | _, some (id, response) => (sendFrame limits id response).toOption
  | _, none => none

def serveFrame (limits : Limits) (turn : Turn) (c : Connection) (received : ReceivedFrame) :
    Connection × Option Bytes × Bool :=
  let c := { c with engine := turn.engine }
  let handled := c.handleFrame turn.external received
  let frame := if turn.sends then c.answerFrame limits handled received else none
  (handled.connection, frame, handled.goesOn && frame.isSome)

def sessionLoop (limits : Limits) (frameTimeoutMs : UInt32) :
    List Turn → Connection → List Arrival → Connection × List Bytes
  | [], c, _ => (c, [])
  | turn :: turns, c, arrivals =>
      let (received, rest) := readFrame limits.maxFrameBytes frameTimeoutMs arrivals
      let (c, frame, goesOn) := c.serveFrame limits turn received
      if goesOn then
        let (c, frames) := sessionLoop limits frameTimeoutMs turns c rest
        (c, frame.toList ++ frames)
      else (c, frame.toList)

def process (limits : Limits) : List Turn → Connection → List ReceivedFrame → Connection × List Bytes
  | turn :: turns, c, received :: rest =>
      let (c, frame, goesOn) := c.serveFrame limits turn received
      if goesOn then
        let (c, frames) := process limits turns c rest
        (c, frame.toList ++ frames)
      else (c, frame.toList)
  | _, c, _ => (c, [])

end Connection

def ReceivedFrame.Ends : ReceivedFrame → Prop
  | .frame _ _ => False
  | _ => True

theorem Connection.serveFrame_ends {limits : Limits} {turn : Turn} {c : Connection} {ending : ReceivedFrame}
    (h : ending.Ends) : (c.serveFrame limits turn ending).2.2 = false := by
  cases ending with
  | closed => rfl
  | failed outcome => rfl
  | frame id payload => exact False.elim h

section Loop

variable {limits : Limits} {frameTimeoutMs : UInt32} {turns : List Turn} {c : Connection} {arrivals : List Arrival}

open Connection

theorem sessionLoop_cons {turn : Turn} {message : ReceivedFrame} {rest : List Arrival} {more : List ReceivedFrame}
    (read : readFrame limits.maxFrameBytes frameTimeoutMs arrivals = (message, rest))
    (later : sessionLoop limits frameTimeoutMs turns (c.serveFrame limits turn message).1 rest =
      process limits turns (c.serveFrame limits turn message).1 more) :
    sessionLoop limits frameTimeoutMs (turn :: turns) c arrivals = process limits (turn :: turns) c (message :: more) := by
  rw [sessionLoop, process, read]
  dsimp only
  rw [later]

theorem sessionLoop_ends {turn : Turn} {ending : ReceivedFrame} {rest : List Arrival}
    (read : readFrame limits.maxFrameBytes frameTimeoutMs arrivals = (ending, rest)) (ends : ending.Ends) :
    sessionLoop limits frameTimeoutMs (turn :: turns) c arrivals = process limits (turn :: turns) c [ending] := by
  rw [sessionLoop, process, read]
  dsimp only
  rw [serveFrame_ends ends, if_neg Bool.false_ne_true, if_neg Bool.false_ne_true]

/-- Whatever arrives, in whatever segments and however late, and whatever the engine has become between the turns: a
session does what it would do for some messages received one by one, and then an end. Their frames, whole and in this
order, are what the peer has sent first. -/
theorem sessionLoop_sound (limits : Limits) (frameTimeoutMs : UInt32) (turns : List Turn) (c : Connection)
    (arrivals : List Arrival) : ∃ (messages : List (MessageId × Bytes)) (ending : ReceivedFrame),
      sessionLoop limits frameTimeoutMs turns c arrivals =
          process limits turns c (messages.map received ++ [ending]) ∧
        messages.flatMap frameOf <+: streamed arrivals ∧
        (∀ message ∈ messages, Framable limits.maxFrameBytes message) ∧ ending.Ends := by
  induction turns generalizing c arrivals with
  | nil => exact ⟨[], .closed, rfl, List.nil_prefix, fun _ h => absurd h List.not_mem_nil, trivial⟩
  | cons turn turns ih =>
      obtain ⟨⟨read, rest⟩, hread⟩ : ∃ step, readFrame limits.maxFrameBytes frameTimeoutMs arrivals = step := ⟨_, rfl⟩
      by_cases hends : read.Ends
      · exact ⟨[], read, sessionLoop_ends hread hends, List.nil_prefix, fun _ h => absurd h List.not_mem_nil, hends⟩
      cases read with
      | closed => exact absurd trivial hends
      | failed outcome => exact absurd trivial hends
      | frame id payload =>
          obtain ⟨messages, ending, hloop, hprefix, hframable, hending⟩ :=
            ih (c.serveFrame limits turn (.frame id payload)).1 rest
          obtain ⟨hstreamed, hfirst⟩ := @readFrame_frame _ _ _ _ (id, payload) hread
          refine ⟨(id, payload) :: messages, ending, sessionLoop_cons hread hloop, ?_, ?_, hending⟩
          · rw [List.flatMap_cons, hstreamed]
            exact (List.prefix_append_right_inj _).mpr hprefix
          · intro message hmessage
            rcases List.mem_cons.mp hmessage with rfl | hmessage
            · exact hfirst
            · exact hframable message hmessage

end Loop

end MultipathFabric
