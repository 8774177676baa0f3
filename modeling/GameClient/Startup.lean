import GameClient.CommandLine
import GameClient.Settings.Directory
import GameClient.Settings.Printer
import GameClient.Settings.Reader

/-! # Starting up

The program reads its command line, finds its settings directory, and loads the settings, which the
command line may override. Only then does it do anything else. -/

namespace GameClient

/-- The notation of settings files. -/
def Settings.Format.standard : Settings.Format := ⟨Settings.text, Settings.ofText?⟩

structure Surroundings where
  home : String
  configHome : Option String := none
  /-- What the disk holds at the path of the settings directory. -/
  disk : String → Disk.Place
  mishap : Disk.Mishap := .none

inductive Startup where
  | refused (why : CommandLine.Refusal)
  | failed (directory : String) (why : Settings.Directory.Fault)
  | ready (arguments : Arguments) (directory : String) (settings : Settings)

namespace Startup

def directoryFor (arguments : Arguments) (around : Surroundings) : String :=
  arguments.directory.getD (Settings.Directory.standardPath around.home around.configHome)

/-- Starts up, and says what the directory holds then and what is logged; without a well-formed
command line the disk is left alone. -/
def run (format : Settings.Format) (around : Surroundings) (words : List String) :
    Startup × Option Disk.Place × List Notice :=
  match Arguments.ofWords words with
  | .error why => (.refused why, none, [])
  | .ok arguments =>
    let directory := directoryFor arguments around
    match Settings.Directory.load format directory (around.disk directory) around.mishap with
    | (.error why, place, notices) => (.failed directory why, some place, notices)
    | (.ok settings, place, notices) =>
      (.ready arguments directory (settings.override arguments.toOverrides), some place, notices)

def exitCode? : Startup → Option Nat
  | refused why => some why.exitCode
  | failed .. => some 1
  | ready .. => none

/-- What the program says on its way out. -/
def complaint : Startup → String
  | failed directory why => "Failed to load config from " ++ directory ++ ": " ++ why.message
  | _ => ""

end Startup

end GameClient
