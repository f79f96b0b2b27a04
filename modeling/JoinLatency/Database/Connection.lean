import JoinLatency.Database.Address
import JoinLatency.Database.Script
import JoinLatency.Database.Session

/-! Connections to databases. A database file is read when it is opened and written when it is
closed; only what was committed by then is kept.
-/

namespace JoinLatency.Database

/-- The location that a path of a database means. Its names are followed as they are written, and
only the directory at the end has to exist.
-/
def locate (files : Files) (path : String) : Except Fault Location :=
  let parsed := FilePath.ofString path
  let location := parsed.names.foldl
    (fun location name => if name == ".." then location.dropLast else location ++ [name])
    (files.startOf parsed)
  let tooLong := location.any fun name => FilePath.longestName < name.utf8ByteSize
  if tooLong || path.toList.contains '\x00' then .error (.cannotOpen path)
  else
    match files.node? location.dropLast, files.node? location with
    | _, some .directory => .error (.cannotOpen path)
    | some .directory, _ => .ok location
    | _, _ => .error (.cannotOpen path)

/-- The store on a file, which is created if it is missing. -/
def openFile (files : Files) (path : String) : Except Fault (Store × Files) := do
  let location ← locate files path
  match files.content? location with
  | none => return ({ address := some location }, files.put location ByteArray.empty)
  | some content =>
      match ofBytes? content with
      | some database =>
          return ({ address := some location, transaction := { committed := database } }, files)
      | none => return ({ address := some location, readable := false }, files)

/-- The store at an address, and the files after it was opened. -/
def openAddress (files : Files) : Address → Except Error (Store × Files)
  | .memory => .ok ({}, files)
  | .file path => (openFile files path).mapError Fault.error
  | .server address => .error (Address.refusal address)

/-- A session on the database that an address text names, whose fetches take some time. -/
def connect (files : Files) (url : String) (tick : Duration)
    : Except Error (DatabaseSession × Files) := do
  let (store, files) ← openAddress files (← Address.ofText url)
  return ({ store, tick }, files)

/-- The files after the connection to a store was closed. What was not committed is lost. -/
def Store.close (store : Store) (files : Files) : Files :=
  match store.address with
  | none => files
  | some location =>
      if store.readable then files.put location (script store.transaction.committed).toUTF8
      else files

end JoinLatency.Database
