import GameClient.Backoff
import GameClient.Client

/-! # The client loop

The loop owns a client. It ticks it at a fixed rate, hands it the events of its channel in order,
and reconnects after a drop as its backoff allows. It does one thing at a time; of several that are
possible it takes the first of stopping, ticking, handling an event, and reconnecting.

Time is a count of nanoseconds. Handling takes no time, and a timer fires at the first whole
millisecond that is not before its instant. `turn?` says what the loop does next at the present
instant, `perform` does it, and `advance` runs the loop through time.

A turn is atomic: others send events, close the channel or act on the transport before or after it,
and not between the choice of what to do and its end. What another thread sends while a turn is under
way counts as sent after it. -/

namespace GameClient

structure LoopConfig where
  /-- Ticks in a second; none counts as one. -/
  tickRate : UInt32 := 60
  /-- Without a policy the client stays disconnected after a drop. -/
  reconnect : Option Backoff.Policy := some {}
deriving DecidableEq

/-- The reciprocal of the rate in doubles, in whole nanoseconds; zero for rates above two per
nanosecond. -/
def LoopConfig.tickPeriod (config : LoopConfig) : Duration :=
  (Duration.ofSeconds? (.ofRatio false 1 (max config.tickRate.toNat 1))).getD ⟨0⟩

namespace Loop

/-- Why a loop ends without a teardown. -/
inductive Fault where
  | zeroPeriod
  /-- The backoff has no next delay that is a duration. -/
  | delayOverflow
  /-- A delay leads past the last instant. -/
  | instantOverflow
deriving DecidableEq

inductive Status where
  /-- Nothing has been done yet. -/
  | fresh
  | running
  | stopped
  | failed (fault : Fault)
deriving DecidableEq

inductive Turn where
  | begin
  | stop
  | tick
  | event (event : Event)
  | channelClosed
  | reconnect
deriving DecidableEq

/-- Instants end after this many nanoseconds. -/
def instantLimit : Nat := 2 ^ 63 * Duration.nanosPerSecond

/-- The first whole millisecond not before an instant. -/
def ripeAt (instant : Nat) : Nat :=
  (instant + Duration.nanosPerMilli - 1) / Duration.nanosPerMilli * Duration.nanosPerMilli

end Loop

structure Loop (τ ι : Type) where
  client : Client τ ι
  period : Duration
  backoff : Option Backoff
  status : Loop.Status := .fresh
  now : Nat := 0
  nextTick : Nat := 0
  reconnectAt : Option Nat := none
  /-- Events sent and not yet handled, oldest first. -/
  queue : List Event := []
  /-- Someone may still send events. -/
  hasSenders : Bool := true
  /-- The loop has not yet seen the end of its channel. -/
  listening : Bool := true
  stopRequested : Bool := false
  published : ConnectionState := .disconnected

namespace Loop

variable {τ ι : Type}

def new (config : LoopConfig) (client : Client τ ι) : Loop τ ι :=
  { client, period := config.tickPeriod, backoff := config.reconnect.map .new }

/-- The loop has neither stopped nor failed. -/
def isAlive (l : Loop τ ι) : Bool := l.status == .fresh || l.status == .running

/-- An event is sent to the loop; a loop that has ended takes none. -/
def post (l : Loop τ ι) (event : Event) : Bool × Loop τ ι :=
  if l.isAlive then (true, { l with queue := l.queue ++ [event] }) else (false, l)

def requestStop (l : Loop τ ι) : Loop τ ι := { l with stopRequested := true }

/-- The last sender goes away. -/
def closeChannel (l : Loop τ ι) : Loop τ ι := { l with hasSenders := false }

/-- Someone else acts on the transport, which may report events. -/
def disturb (l : Loop τ ι) (act : τ → List Event × τ) : Loop τ ι :=
  let (events, transport) := act l.client.transport
  let l := { l with client := { l.client with transport } }
  if l.isAlive then { l with queue := l.queue ++ events } else l

/-- The next event, or the news that none will come. -/
def channelTurn? (l : Loop τ ι) : Option Turn :=
  if !l.listening then none
  else match l.queue with
    | event :: _ => some (.event event)
    | [] => if l.hasSenders then none else some .channelClosed

def reconnectTurn? (l : Loop τ ι) : Option Turn :=
  match l.reconnectAt with
  | some instant => if ripeAt instant ≤ l.now then some .reconnect else none
  | none => none

/-- What the loop does next at this instant. -/
def turn? (l : Loop τ ι) : Option Turn :=
  match l.status with
  | .stopped | .failed _ => none
  | .fresh => some .begin
  | .running =>
    if l.stopRequested then some .stop
    else if ripeAt l.nextTick ≤ l.now then some .tick
    else l.channelTurn?.or l.reconnectTurn?

/-- The instant at which a timer fires next. -/
def nextWake? (l : Loop τ ι) : Option Nat :=
  match l.status, l.reconnectAt with
  | .running, some instant => some (min (ripeAt l.nextTick) (ripeAt instant))
  | .running, none => some (ripeAt l.nextTick)
  | _, _ => none

def fail (l : Loop τ ι) (fault : Fault) : Loop τ ι := { l with status := .failed fault }

/-- Arms the reconnect timer with the next delay of the backoff, if it has one. -/
def schedule (draw : Binary64) (l : Loop τ ι) : Loop τ ι × List Effect :=
  match l.backoff with
  | none => ({ l with reconnectAt := none }, [])
  | some backoff =>
    match backoff.next draw with
    | (.exhausted, _) =>
      ({ l with reconnectAt := none }, [.note (.attemptsExhausted backoff.attempts)])
    | (.overflow, counted) => ({ l with backoff := some counted }.fail .delayOverflow, [])
    | (.wait delay, later) =>
      let l := { l with backoff := some later }
      let effects := [.note (.reconnectScheduled later.attempts delay)]
      if instantLimit ≤ l.now + delay.nanos then (l.fail .instantOverflow, effects)
      else ({ l with reconnectAt := some (l.now + delay.nanos) }, effects)

def publish (l : Loop τ ι) : Loop τ ι × List Effect :=
  let state := l.client.session.connection
  ({ l with published := state }, [.publish state])

/-- Takes over a client after one of its operations; what its transport reported during the call
goes to the end of the queue. -/
def adopt (l : Loop τ ι) (client : Client τ ι) (effects : List Effect) : Loop τ ι :=
  { l with client, queue := l.queue ++ effects.filterMap Effect.reported? }

variable [Transport τ] [Sampler ι]

/-- The first connect, then the timer of the ticks, whose first one is due at once. -/
def begin (draw : Binary64) (l : Loop τ ι) : Loop τ ι × List Effect :=
  let (answer, client, effects) := l.client.start
  let l := { l.adopt client effects with status := .running, nextTick := l.now }
  let (l, more) := match answer with
    | .accepted => (l, [])
    | .refused error =>
      let (l, more) := l.schedule draw
      (l, Effect.note (.firstConnectRefused error) :: more)
  if l.status = Status.running ∧ l.period.nanos = 0 then (l.fail .zeroPeriod, effects ++ more)
  else (l, effects ++ more)

def stop (l : Loop τ ι) : Loop τ ι × List Effect :=
  let (client, effects) := l.client.teardown
  let (l, more) := { l with client, status := .stopped }.publish
  (l, effects ++ more)

def tick (l : Loop τ ι) : Loop τ ι × List Effect :=
  let (client, effects) := l.client.tick
  ({ l with client, nextTick := l.nextTick + l.period.nanos }, effects)

/-- A link that came up renews the backoff, one that went away arms the timer. Then the client
handles the event, unless the loop failed. -/
def handle (draw : Binary64) (l : Loop τ ι) (event : Event) : Loop τ ι × List Effect :=
  let l := { l with queue := l.queue.tail }
  let (l, effects) := match event with
    | .connected => ({ l with backoff := l.backoff.map .reset, reconnectAt := none }, [])
    | .disconnected => l.schedule draw
    | .frame _ => (l, [])
  if l.status ≠ .running then (l, effects)
  else
    let (client, more) := l.client.handle event
    let (l, last) := { l with client }.publish
    (l, effects ++ more ++ last)

def reconnect (draw : Binary64) (l : Loop τ ι) : Loop τ ι × List Effect :=
  let (answer, client, effects) := l.client.reconnect
  let l := { l.adopt client effects with reconnectAt := none }
  match answer with
  | .accepted => (l, effects)
  | .refused error =>
    let (l, more) := l.schedule draw
    (l, effects ++ .note (.reconnectRefused error) :: more)

/-- Performs one turn; `draw` is the jitter factor, should a delay be taken. -/
def perform (draw : Binary64) (l : Loop τ ι) : Turn → Loop τ ι × List Effect
  | .begin => l.begin draw
  | .stop => l.stop
  | .tick => l.tick
  | .event event => l.handle draw event
  | .channelClosed => ({ l with listening := false }, [.note .channelClosed])
  | .reconnect => l.reconnect draw

/-- Runs the loop until `limit` and adds what it does to `past`. Turns that are possible at the
present instant come first, then time goes to the next timer before `limit`. Each turn and each
wait uses up one of `steps`. -/
def advance (draw : Binary64) (limit : Nat) :
    (steps : Nat) → Loop τ ι × Array Effect → Loop τ ι × Array Effect
  | 0, state => state
  | steps + 1, (l, past) =>
    match l.turn? with
    | some turn =>
      let (l, effects) := l.perform draw turn
      advance draw limit steps (l, past ++ effects)
    | none =>
      match l.nextWake? with
      | some instant =>
        if instant < limit then advance draw limit steps ({ l with now := instant }, past)
        else ({ l with now := limit }, past)
      | none => ({ l with now := limit }, past)

end Loop

end GameClient
