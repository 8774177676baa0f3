import GameClient.Disk
import GameClient.Log.Notice
import GameClient.Settings

/-! # The settings directory

Settings live in one file in a directory of their own. `load` reads the file, or writes one with
the defaults where it sees none; `save` writes it. How settings are written as text is a
parameter, so that what is said of the directory does not depend on it. -/

namespace GameClient

namespace Settings

structure Format where
  text : Settings → String
  ofText? : String → Option Settings

namespace Directory

inductive Fault where
  | read (why : Disk.Fault)
  | write (why : Disk.Fault)
  /-- The file is no settings text. -/
  | malformed
deriving DecidableEq

/-- The message; what is wrong in a malformed text is not said. -/
def Fault.message : Fault → String
  | read why => "failed to read config: " ++ why.message
  | write why => "failed to write config: " ++ why.message
  | malformed => "failed to parse config: "

def fileName : String := "config.ron"

def filePath (path : String) : String := Disk.join path fileName

/-- The directory if no other is asked for: in the configuration directory of the environment, if
that is absolute, else in the one of the home directory. -/
def standardPath (home : String) (configHome : Option String) : String :=
  let base := (configHome.filter Disk.isAbsolute).getD (Disk.join home ".config")
  Disk.join base "withered"

/-- Settings from the content of a file. -/
def parse (format : Format) (content : ByteArray) : Except Fault Settings :=
  match String.fromUTF8? content with
  | none => .error (.read .notText)
  | some source =>
    match format.ofText? source with
    | some settings => .ok settings
    | none => .error .malformed

def save (format : Format) (settings : Settings) (place : Disk.Place)
    (trouble : Disk.Trouble := .none) : Except Fault Unit × Disk.Place :=
  match place.write (format.text settings).toUTF8 trouble with
  | (.ok (), place) => (.ok (), place)
  | (.error why, place) => (.error (.write why), place)

/-- Reads the settings file in the directory at `path`, or makes one with the defaults if none shows
there. A file that is there but does not show is written over. -/
def load (format : Format) (path : String) (place : Disk.Place)
    (mishap : Disk.Mishap := .none) : Except Fault Settings × Disk.Place × List Notice :=
  match place.seen mishap with
  | .directory => (.error (.read .isDirectory), place, [])
  | .file content =>
    match mishap.trouble with
    | .reading reason => (.error (.read (.failed reason)), place, [])
    | _ =>
      match parse format content with
      | .ok settings => (.ok settings, place, [.settingsLoaded (filePath path)])
      | .error fault => (.error fault, place, [])
  | .absent =>
    match save format {} place mishap.trouble with
    | (.ok (), place) => (.ok {}, place, [.settingsCreated (filePath path)])
    | (.error fault, place) => (.error fault, place, [])

end Directory

end Settings

end GameClient
