import GameClient.Headless
import GameClient.Log.Filter
import GameClient.Player.Script
import GameClient.Startup
import GameClient.Transport.Socket

/-! # The program

Starts up, then runs the client loop in real time and prints what it notes. No sockets can be opened
from here, so every attempt to connect is refused; the loop goes on as it would without a server. -/

namespace GameClient.Program

/-- What stands at the path of the settings directory. -/
def diskAt (path : String) : IO Disk.Place := do
  let directory := (← IO.currentDir) / path
  if ← directory.isDir then
    let file := directory / Settings.Directory.fileName
    if ← file.isDir then return .directory .directory
    else if ← file.pathExists then return .directory (.file (← IO.FS.readBinFile file))
    else return .directory .absent
  else if ← directory.pathExists then return .file
  else return .absent

/-- Writes what starting up left to write. -/
def settle (path : String) (before after : Disk.Place) : IO Unit := do
  match before.entry, after.entry with
  | .absent, .file content =>
    let directory := (← IO.currentDir) / path
    IO.FS.createDirAll directory
    IO.FS.writeBinFile (directory / Settings.Directory.fileName) content
  | _, _ => return ()

def say (filter : Log.Filter) (notice : Notice) : IO Unit := do
  if filter.passes "withered" notice.entry.level then
    IO.println (notice.line Settings.realLayout.text)
    (← IO.getStdout).flush

def sayAll (filter : Log.Filter) (effects : List Effect) (h : Headless) : IO Headless :=
  effects.foldlM (fun h effect => do
      let (h, notices) := h.observe effect
      for notice in notices do say filter notice
      return h)
    h

/-- The jitter factor at `position / 1000` of the way from the least factor to the greatest. -/
def factorAt (policy : Backoff.Policy) (position : Nat) : Binary64 :=
  let offset : Int := 2 * position - 1000
  Binary64.one.add (policy.spread.mul (.ofRatio (decide (offset < 0)) offset.natAbs 1000))

partial def runLoop (filter : Log.Filter) (origin : Nat) (l : Loop WebSocket Player) (h : Headless) :
    IO Unit := do
  let position ← IO.rand 0 1000
  let draw := (l.backoff.map fun backoff => factorAt backoff.policy position).getD .one
  let now := (← IO.monoNanosNow) - origin
  let (l, effects) := Loop.advance draw (now + 1) 1000 (l, #[])
  let h ← sayAll filter effects.toList h
  match l.nextWake? with
  | some instant =>
    IO.sleep (UInt32.ofNat ((instant - l.now) / Duration.nanosPerMilli + 1))
    runLoop filter origin l h
  | none => say filter .loopLost

def runClient (arguments : Arguments) (s : Settings) : IO Unit := do
  let filter := Log.Filter.inForce (← IO.getEnv "RUST_LOG") (some s.diagnostics.logLevel)
  say filter (.programStarting s.network.serverUrl s.network.tickRate s.reconnect.enabled)
  let client : Client WebSocket Player :=
    { transport := { url := s.network.serverUrl, hasRuntime := false }
      input := if arguments.bot then .bot .new else .idle }
  runLoop filter (← IO.monoNanosNow) (Loop.new s.loopConfig client) {}

def run (words : List String) : IO UInt32 := do
  let around (place : Disk.Place) : IO Surroundings := return {
    home := (← IO.getEnv "HOME").getD ""
    configHome := ← IO.getEnv "XDG_CONFIG_HOME"
    disk := fun _ => place }
  let place ← match Arguments.ofWords words with
    | .ok arguments => diskAt (Startup.directoryFor arguments (← around .absent))
    | .error _ => pure .absent
  let (startup, after, _) := Startup.run .standard (← around place) words
  match startup with
  | .refused .help =>
    IO.println CommandLine.usage
    return 0
  | .refused why =>
    IO.eprintln CommandLine.usage
    return UInt32.ofNat why.exitCode
  | .failed .. =>
    IO.eprintln startup.complaint
    return 1
  | .ready arguments path s =>
    settle path place (after.getD place)
    runClient arguments s
    return 0

end GameClient.Program

def main (words : List String) : IO UInt32 := GameClient.Program.run words
