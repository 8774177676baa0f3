import GameClient.Duration
import GameClient.Log.Level
import GameClient.Transport

/-! # Notices

Everything the client says in its log. A notice has a level, a message, and named fields in a
fixed order. -/

namespace GameClient

inductive Notice where
  | clientStarting
  | reconnecting
  | linkUp
  | linkDown (seq : UInt32)
  | idReceived (id : SessionId)
  | joinSent (id : SessionId) (seq : UInt32)
  | leaveSent (id : SessionId) (seq : UInt32)
  | leaveRefused (error : TransportError)
  | tornDown
  | sendRefused (error : TransportError)
  | emptyFrame
  | unhandledDataType (tag : UInt8)
  | bareControl (length : Nat)
  | unhandledControl (tag : UInt8)
  | assignWhileDisconnected
  | malformedAssign (error : DecodeError)
  | broadcast (count : Nat)
  | malformedBroadcast (error : DecodeError)
  | firstConnectRefused (error : TransportError)
  | reconnectRefused (error : TransportError)
  | channelClosed
  | attemptsExhausted (attempts : Nat)
  | reconnectScheduled (attempt : Nat) (delay : Duration)
  | actorsChanged (count : Nat)
  | playingAs (id : SessionId)
  | noLocalSession
  | localActor (x y : Binary64) (frame : Nat)
  | socketConnecting (url : String)
  | socketRefused (url reason : String)
  | socketEstablished (url : String)
  | socketSendFailed (reason : String)
  | serverClosed
  | socketFailed (reason : String)
  | socketEnded
  | socketClosed (url : String)
  | settingsLoaded (path : String)
  | settingsCreated (path : String)
  | programStarting (url : String) (rate : UInt32) (reconnects : Bool)
  | programStopping
  | programStopped (received sent dropped rendered : Nat)
  | loopLost
deriving DecidableEq

namespace Notice

inductive Field where
  | text (value : String)
  | number (value : Nat)
  | real (value : Binary64)
deriving DecidableEq

structure Entry where
  level : LogLevel
  message : String
  fields : List (String × Field) := []
deriving DecidableEq

def entry : Notice → Entry
  | clientStarting => { level := .info, message := "Starting client" }
  | reconnecting => { level := .info, message := "Reconnecting to server" }
  | linkUp => { level := .info, message := "Connected to server, waiting for session id" }
  | linkDown seq =>
    { level := .info, message := "Disconnected from server", fields := [("seq", .number seq.toNat)] }
  | idReceived id =>
    { level := .info, message := "Received session id", fields := [("session_id", .text id.text)] }
  | joinSent id seq =>
    { level := .info, message := "Sent JOIN"
      fields := [("session_id", .text id.text), ("seq", .number seq.toNat)] }
  | leaveSent id seq =>
    { level := .info, message := "Sent LEAVE"
      fields := [("session_id", .text id.text), ("seq", .number seq.toNat)] }
  | leaveRefused error =>
    { level := .debug, message := "LEAVE not delivered during teardown"
      fields := [("error", .text error.message)] }
  | tornDown => { level := .info, message := "Client torn down" }
  | sendRefused error =>
    { level := .warn, message := "Failed to send frame", fields := [("error", .text error.message)] }
  | emptyFrame => { level := .warn, message := "Dropping empty frame" }
  | unhandledDataType tag =>
    { level := .debug, message := "Ignoring frame with unhandled data type"
      fields := [("tag", .number tag.toNat)] }
  | bareControl length =>
    { level := .warn, message := "Dropping control frame without sub type"
      fields := [("len", .number length)] }
  | unhandledControl tag =>
    { level := .debug, message := "Ignoring control frame"
      fields := [("sub_type", .number tag.toNat)] }
  | assignWhileDisconnected =>
    { level := .warn, message := "Dropping ASSIGN received while disconnected" }
  | malformedAssign error =>
    { level := .warn, message := "Dropping malformed ASSIGN frame"
      fields := [("error", .text error.message)] }
  | broadcast count =>
    { level := .debug, message := "Actor broadcast", fields := [("count", .number count)] }
  | malformedBroadcast error =>
    { level := .warn, message := "Dropping malformed actor broadcast"
      fields := [("error", .text error.message)] }
  | firstConnectRefused error =>
    { level := .warn, message := "Initial connect failed"
      fields := [("error", .text error.message)] }
  | reconnectRefused error =>
    { level := .warn, message := "Reconnect attempt failed"
      fields := [("error", .text error.message)] }
  | channelClosed => { level := .debug, message := "Transport event channel closed" }
  | attemptsExhausted attempts =>
    { level := .warn, message := "Reconnection attempts exhausted; staying disconnected"
      fields := [("attempts", .number attempts)] }
  | reconnectScheduled attempt delay =>
    { level := .info, message := "Scheduling reconnect"
      fields := [("attempt", .number attempt), ("delay", .text delay.text)] }
  | actorsChanged count =>
    { level := .info, message := "Visible actors changed", fields := [("actors", .number count)] }
  | playingAs id =>
    { level := .info, message := "Playing as session", fields := [("session_id", .text id.text)] }
  | noLocalSession => { level := .info, message := "No local session" }
  | localActor x y frame =>
    { level := .debug, message := "Local actor"
      fields := [("x", .real x), ("y", .real y), ("frame", .number frame)] }
  | socketConnecting url =>
    { level := .info, message := "Connecting to WebSocket server", fields := [("url", .text url)] }
  | socketRefused url reason =>
    { level := .warn, message := "WebSocket connection failed"
      fields := [("url", .text url), ("error", .text reason)] }
  | socketEstablished url =>
    { level := .info, message := "WebSocket connection established"
      fields := [("url", .text url)] }
  | socketSendFailed reason =>
    { level := .warn, message := "Failed to send frame", fields := [("error", .text reason)] }
  | serverClosed => { level := .info, message := "Server closed connection" }
  | socketFailed reason =>
    { level := .warn, message := "WebSocket error", fields := [("error", .text reason)] }
  | socketEnded => { level := .info, message := "Connection closed" }
  | socketClosed url =>
    { level := .info, message := "WebSocket connection closed by client"
      fields := [("url", .text url)] }
  | settingsLoaded path => { level := .info, message := "Loaded config from " ++ path }
  | settingsCreated path => { level := .info, message := "Created default config at " ++ path }
  | programStarting url rate reconnects =>
    { level := .info, message := "Withered client starting"
      fields := [("server_url", .text url), ("tick_rate_hz", .number rate.toNat),
        ("reconnect", .text (if reconnects then "true" else "false"))] }
  | programStopping => { level := .info, message := "Shutting down" }
  | programStopped received sent dropped rendered =>
    { level := .info, message := "Client stopped"
      fields := [("frames_received", .number received), ("frames_sent", .number sent),
        ("frames_dropped", .number dropped), ("rendered", .number rendered)] }
  | loopLost => { level := .error, message := "Client loop panicked" }

/-- The notice on one line: level, message, then each field as `name=value`. -/
def line (realText : Binary64 → String) (n : Notice) : String :=
  let fieldText : String × Field → String
    | (name, .text value) => " " ++ name ++ "=" ++ value
    | (name, .number value) => " " ++ name ++ "=" ++ toString value
    | (name, .real value) => " " ++ name ++ "=" ++ realText value
  n.entry.level.label ++ " " ++ n.entry.message ++ String.join (n.entry.fields.map fieldText)

end Notice

end GameClient
