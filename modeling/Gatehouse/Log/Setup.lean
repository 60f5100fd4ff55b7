import Gatehouse.Log.Console
import Gatehouse.Log.RollingFile
import Gatehouse.Log.Settings

/-!
# The logger of a service

Every record goes to the console. With file output it also goes to the files of the application,
and errors once more to files of their own in the same folder.
-/
namespace Gatehouse.Setup

/-- What the sinks of a service write to. -/
structure Outputs where
  terminal : Terminal
  folder : Folder
  main : Option RollingFile.OpenFile
  errors : Option RollingFile.OpenFile

def consoleSink (console : Console) : Sink Outputs FileError where
  write := fun record outputs =>
    (.ok (), { outputs with terminal := console.write record outputs.terminal })
  flush := fun outputs => (.ok (), outputs)

def mainSink (policy : RollingFile.Policy) : Sink Outputs FileError where
  write := fun record outputs =>
    let (result, current, folder) := RollingFile.write policy record outputs.main outputs.folder
    (result, { outputs with main := current, folder := folder })
  flush := fun outputs => (.ok (), outputs)

def errorSink (policy : RollingFile.Policy) : Sink Outputs FileError where
  write := fun record outputs =>
    let (result, current, folder) := RollingFile.write policy record outputs.errors outputs.folder
    (result, { outputs with errors := current, folder := folder })
  flush := fun outputs => (.ok (), outputs)

/-- The files of all records. -/
def mainPolicy (settings : LogSettings) : RollingFile.Policy :=
  { RollingFile.Policy.ofStem settings.app with
    maxSize := settings.maxFileSize
    maxAgeDays := settings.maxFileAgeDays }

/-- The files of errors. -/
def errorPolicy (settings : LogSettings) : RollingFile.Policy :=
  { RollingFile.Policy.ofStem (settings.app ++ "-error") with
    app := settings.app
    maxSize := settings.maxFileSize
    maxAgeDays := settings.maxFileAgeDays
    maxLevel := .error }

def console (settings : LogSettings) : Console :=
  ⟨settings.format, settings.app, settings.colors, .out⟩

def logger (settings : LogSettings) : Logger Outputs FileError where
  minimum := settings.level
  sinks :=
    consoleSink (console settings) ::
      if settings.toFile then [mainSink (mainPolicy settings), errorSink (errorPolicy settings)]
      else []
  context := none

/-- Nothing written yet, into that folder. -/
def blank (folder : Folder) : Outputs := ⟨.blank, folder, none, none⟩

end Gatehouse.Setup
