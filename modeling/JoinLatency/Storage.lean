import JoinLatency.Files
import JoinLatency.Timer.Log

/-! Storages lend out logs and keep texts under paths. A tree of files is one, in which a log fails
at most when it is opened.
-/

namespace JoinLatency

/-- A storage `D` with logs `W`. Every operation returns the storage after it, also when it fails.
-/
class Storage (D : Type) (W : outParam Type) [Sink W] where
  /-- Opens the log at a path and lends it out. -/
  openLog : D → String → Except IoFault W × D
  /-- Takes back a log and hands on what it holds back. A fault goes unnoticed. -/
  closeLog : D → W → D
  /-- Puts a text and nothing else where a path says. -/
  save : D → String → String → Except IoFault Unit × D

/-- A text for the end of the file at a location. -/
structure FileLog where
  location : Location
  text : String := ""

instance : Sink FileLog where
  write log text := { log with text := log.text ++ text }
  flush log := log
  status _ := .ok ()

instance : Storage Files FileLog where
  openLog files path := (files.writable path |>.map ({ location := · }), files)
  closeLog files log := files.appendAt log.location log.text.toUTF8
  save files path text :=
    match files.save path text.toUTF8 with
    | .error fault => (.error fault, files)
    | .ok files => (.ok (), files)

end JoinLatency
