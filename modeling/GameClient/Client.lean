import GameClient.Log.Notice
import GameClient.Session
import GameClient.Wire.Actor
import GameClient.Wire.Control

/-! # The client

A client joins a session when the server assigns one, sends the held keys while it has a session,
shows the latest broadcast on every tick, and leaves once when it is torn down. Each operation
returns the new client and, in order, what it did outside itself. -/

namespace GameClient

/-- What an operation does outside the client or the loop around it. -/
inductive Effect where
  | connect (answer : Answer)
  /-- The transport reports an event during the call. -/
  | report (event : Event)
  | send (frame : Bytes) (answer : Answer)
  | disconnect
  | sample (keys : KeyMask)
  | release
  | render (actors : List Actor) (localId : Option SessionId)
  | note (notice : Notice)
  /-- The loop announces the connection state. -/
  | publish (state : ConnectionState)
deriving DecidableEq

namespace Effect

def reported? : Effect → Option Event
  | report event => some event
  | _ => none

def notice? : Effect → Option Notice
  | note notice => some notice
  | _ => none

def published? : Effect → Option ConnectionState
  | publish state => some state
  | _ => none

/-- The frame that was handed to the transport, taken or not. -/
def frame? : Effect → Option Bytes
  | send frame _ => some frame
  | _ => none

end Effect

/-- Traffic counters. Each received frame is dropped, ignored or used. They have no upper bound:
sixty-four bits, in which they are kept, last for centuries even at a frame in each nanosecond. -/
structure Stats where
  received : Nat := 0
  dropped : Nat := 0
  ignored : Nat := 0
  sent : Nat := 0
  sendFailures : Nat := 0
deriving DecidableEq

structure Client (τ ι : Type) where
  transport : τ
  input : ι
  session : Session := {}
  actors : List Actor := []
  stats : Stats := {}
  tornDown : Bool := false

namespace Client

variable {τ ι : Type} [Transport τ] [Sampler ι]

def connect (c : Client τ ι) : Answer × Client τ ι × List Effect :=
  let (answer, events, transport) := Transport.connect c.transport
  (answer, { c with transport }, .connect answer :: events.map .report)

/-- The first connect, or a new one after a teardown. -/
def start (c : Client τ ι) : Answer × Client τ ι × List Effect :=
  let (answer, c, effects) := connect { c with tornDown := false }
  (answer, c, .note .clientStarting :: effects)

def reconnect (c : Client τ ι) : Answer × Client τ ι × List Effect :=
  let (answer, c, effects) := c.connect
  (answer, c, .note .reconnecting :: effects)

/-- Hands a frame to the transport and counts how that ended. -/
def hand (c : Client τ ι) (frame : Bytes) : Answer × Client τ ι :=
  let (answer, transport) := Transport.send frame c.transport
  let stats := match answer with
    | .accepted => { c.stats with sent := c.stats.sent + 1 }
    | .refused _ => { c.stats with sendFailures := c.stats.sendFailures + 1 }
  (answer, { c with transport, stats })

/-- Sends a frame; `onAccepted` is noted if the transport takes it. -/
def send (c : Client τ ι) (frame : Bytes) (onAccepted : List Notice) :
    Client τ ι × List Effect :=
  match c.hand frame with
  | (.accepted, c) => (c, .send frame .accepted :: onAccepted.map .note)
  | (.refused error, c) => (c, [.send frame (.refused error), .note (.sendRefused error)])

def drop (c : Client τ ι) (why : Notice) : Client τ ι × List Effect :=
  ({ c with stats := { c.stats with dropped := c.stats.dropped + 1 } }, [.note why])

def ignore (c : Client τ ι) (why : Notice) : Client τ ι × List Effect :=
  ({ c with stats := { c.stats with ignored := c.stats.ignored + 1 } }, [.note why])

/-- Takes the assigned id and joins with the next sequence number. -/
def join (c : Client τ ι) (id : SessionId) : Client τ ι × List Effect :=
  let seq := c.session.seq
  let assigned := { c with session := (c.session.assign id).advance }
  let (c, effects) := assigned.send (Control.encode ⟨.join, id, seq⟩) [.joinSent id seq]
  (c, .note (.idReceived id) :: effects)

def onAssign (c : Client τ ι) (frame : Bytes) : Client τ ι × List Effect :=
  if c.session.connection ≠ .connected then c.drop .assignWhileDisconnected
  else match Assign.decode frame with
    | .ok id => c.join id
    | .error error => c.drop (.malformedAssign error)

def onControl (c : Client τ ι) (frame : Bytes) : Client τ ι × List Effect :=
  match peekControlKind frame with
  | some .assign => c.onAssign frame
  | some other => c.ignore (.unhandledControl other.toByte)
  | none => c.drop (.bareControl frame.length)

/-- A broadcast replaces the actor list. -/
def onBroadcast (c : Client τ ι) (frame : Bytes) : Client τ ι × List Effect :=
  match Broadcast.decode frame with
  | .ok actors => ({ c with actors }, [.note (.broadcast actors.length)])
  | .error error => c.drop (.malformedBroadcast error)

def onFrame (c : Client τ ι) (frame : Bytes) : Client τ ι × List Effect :=
  let c := { c with stats := { c.stats with received := c.stats.received + 1 } }
  match peekDataType frame with
  | some .control => c.onControl frame
  | some .actor => c.onBroadcast frame
  | some other => c.ignore (.unhandledDataType other.toByte)
  | none => c.drop .emptyFrame

def handle (c : Client τ ι) : Event → Client τ ι × List Effect
  | .connected => ({ c with session := c.session.connected }, [.note .linkUp])
  | .disconnected =>
    ({ c with session := c.session.disconnected, actors := [] }, [.note (.linkDown c.session.seq)])
  | .frame bytes => c.onFrame bytes

/-- Sends the held keys under the session `id`, unless no key is held. -/
def sendKeys (c : Client τ ι) (id : SessionId) (keys : KeyMask) : Client τ ι × List Effect :=
  if keys.isEmpty then (c, [])
  else
    { c with session := c.session.advance }.send (Input.encode ⟨id, c.session.seq, keys⟩) []

/-- Samples and sends the keys if there is a session, then renders. -/
def tick (c : Client τ ι) : Client τ ι × List Effect :=
  let (c, effects) := match c.session.readyId with
    | none => (c, [])
    | some id =>
      let (keys, input) := Sampler.sample c.input
      let (c, effects) := { c with input }.sendKeys id keys
      (c, Effect.sample keys :: effects)
  (c, effects ++ [Effect.render c.actors c.session.id])

/-- Says LEAVE for the session that is ready, if any; a refusal is only counted. -/
def leave (c : Client τ ι) : Client τ ι × List Effect :=
  match c.session.readyId with
  | none => (c, [])
  | some id =>
    let seq := c.session.seq
    let frame := Control.encode ⟨.leave, id, seq⟩
    match { c with session := c.session.advance }.hand frame with
    | (.accepted, c) => (c, [.send frame .accepted, .note (.leaveSent id seq)])
    | (.refused error, c) => (c, [.send frame (.refused error), .note (.leaveRefused error)])

/-- Leaves, closes the transport and releases the input. Only the first teardown since the last
start has an effect. -/
def teardown (c : Client τ ι) : Client τ ι × List Effect :=
  if c.tornDown then (c, [])
  else
    let (c, effects) := leave { c with tornDown := true }
    ({ c with
        transport := Transport.disconnect c.transport
        input := Sampler.release c.input
        session := c.session.disconnected
        actors := [] },
      effects ++ [.disconnect, .release, .note .tornDown])

end Client

end GameClient
