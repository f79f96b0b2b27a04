import JoinLatency.Error

/-! Addresses of databases. An address names a database in memory, a file, or a server; the host part
of a server address has to end in a valid port number if it holds a colon.
-/

namespace JoinLatency.Database

/-- Where a database is. -/
inductive Address
  | memory
  | file (path : String)
  | server (address : String)
  deriving DecidableEq, Repr

/-- What follows a start of a text, if the text has that start. -/
def after? (start text : String) : Option String :=
  let length := start.toList.length
  if start.toList.isPrefixOf text.toList then some (String.ofList (text.toList.drop length))
  else none

namespace Address

/-- The starts of addresses of files, the longer one first. -/
def fileStarts : List String := ["sqlite://", "sqlite:"]

/-- The starts of addresses of servers. -/
def serverStarts : List String := ["postgres://", "postgresql://"]

/-- The paths that mean a database in memory. -/
def memoryPaths : List String := ["", ":memory:"]

/-- The database that an address text names. -/
def ofText (text : String) : Except Error Address :=
  match fileStarts.findSome? (after? · text), serverStarts.findSome? (after? · text) with
  | some path, _ => .ok (if memoryPaths.contains path then .memory else .file path)
  | none, some address => .ok (.server address)
  | none, none => .error (.invalidConfig (.unsupportedUrl text))

/-! ## Servers -/

/-- The host part of a server address, without the user before it. -/
def host (address : String) : List Char :=
  let authority := address.toList.takeWhile fun c => !(['/', '?', '#'].contains c)
  let afterUser := (authority.reverse.takeWhile (· != '@')).reverse
  match afterUser with
  | '[' :: _ => afterUser.dropWhile (· != ']')
  | _ => afterUser

/-- The greatest port number. -/
def greatestPort : Nat := 65535

/-- Whether a server address has no port number or one in range. -/
def validPort (address : String) : Bool :=
  match (host address).dropWhile (· != ':') with
  | _ :: digits => digits.all Char.isDigit && Nat.ofDigitChars 10 digits 0 ≤ greatestPort
  | [] => true

/-- Why there is no session with a server: its address is refused, or nobody answers there. -/
def refusal (address : String) : Error :=
  if validPort address then
    .connectionLost "error communicating with database: Connection refused (os error 111)"
  else .database (FetchError.other "error with configuration: invalid port number").message

end Address

end JoinLatency.Database
