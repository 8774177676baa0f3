import GameClient.Client

/-! # Rendering to the log

The headless renderer notes what changes from one frame to the next: the number of visible
actors, the session that is played, and on every frame the position of the local actor. -/

namespace GameClient

structure Headless where
  /-- No bound is put on the count; kept in sixty-four bits, it has room for centuries of frames. -/
  frames : Nat := 0
  lastCount : Option Nat := none
  lastLocal : Option SessionId := none
deriving DecidableEq

namespace Headless

def countNotices (h : Headless) (actors : List Actor) : List Notice :=
  if h.lastCount = some actors.length then [] else [.actorsChanged actors.length]

def sessionNotices (h : Headless) (localId : Option SessionId) : List Notice :=
  if h.lastLocal = localId then []
  else match localId with
    | some id => [.playingAs id]
    | none => [.noLocalSession]

/-- The first actor that the local session plays, as of the given frame. -/
def positionNotices (frame : Nat) (actors : List Actor) (localId : Option SessionId) :
    List Notice :=
  match actors.find? (·.isLocal localId) with
  | some actor => [.localActor (.ofBinary32 actor.x) (.ofBinary32 actor.y) frame]
  | none => []

def render (h : Headless) (actors : List Actor) (localId : Option SessionId) :
    Headless × List Notice :=
  ({ frames := h.frames + 1, lastCount := some actors.length, lastLocal := localId },
    h.countNotices actors ++ h.sessionNotices localId ++
      positionNotices (h.frames + 1) actors localId)

/-- What an effect adds to the log where rendering is headless. -/
def observe (h : Headless) : Effect → Headless × List Notice
  | .render actors localId => h.render actors localId
  | .note notice => (h, [notice])
  | _ => (h, [])

end Headless

end GameClient
