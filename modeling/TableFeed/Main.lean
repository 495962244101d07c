import Std.Async.DNS
import Std.Async.TCP
import Std.Async.Timer
import Std.Time.DateTime
import TableFeed.Cli.Program
import TableFeed.Http.Message

/-!
# The command line

Where the program meets the world: files, the standard streams, the clock, chance and the
network. What is done with them is decided in `TableFeed.Cli.Program`.
-/

open TableFeed Service
open Std.Async Std.Net

namespace TableFeed.Main

/-! ### Files, the clock and chance -/

/-- The bytes of a file, if it can be read. -/
def readFile (path : String) : IO (Option (List UInt8)) := do
  try return some (← IO.FS.readBinFile path).toList
  catch _ => return none

/-- The bytes of the standard input. -/
def readInput : IO (List UInt8) := do return (← (← IO.getStdin).readBinToEnd).toList

/-- A random identifier. Its thirteenth digit is 4, and the seventeenth is one of 8, 9, a, b. -/
def freshRunId : IO Run.RunId := do
  let bytes := (← IO.getRandomBytes 16).toList
  let digits := bytes.flatMap fun b => [Nat.digitChar (b.toNat / 16), Nat.digitChar (b.toNat % 16)]
  let variant := Nat.digitChar (8 + (bytes.headD 0).toNat % 4)
  return { digits := (digits.set 12 '4').set 16 variant }

/-- The time. -/
def now : IO Run.Instant := do
  let nanos := (← Std.Time.Timestamp.now).toNanosecondsSinceUnixEpoch.val
  return { seconds := nanos / 1000000000, nanos := (nanos % 1000000000).toNat }

/-! ### The network -/

/-- The places where a host listens. -/
def places (u : Url) : Async (List SocketAddress) := do
  let host := String.ofList (u.host.filter fun c => c != '[' && c != ']')
  let port := UInt16.ofNat (u.port.getD (Http.usualPort u))
  let found ← DNS.getAddrInfo host ""
  return found.toList.map fun
    | .v4 a => .v4 { addr := a, port }
    | .v6 a => .v6 { addr := a, port }

/-- A connection to the first place that accepts one. -/
def connect : List SocketAddress → Async TCP.Socket.Client
  | [] => throw (IO.userError "the host cannot be reached")
  | place :: others => do
    let socket ← TCP.Socket.Client.mk
    try
      socket.connect place
      return socket
    catch e => if others.isEmpty then throw e else connect others

/-- Reads an answer, of which some bytes have come. -/
partial def receive (socket : TCP.Socket.Client) (bytes : List UInt8) : Async Exchange := do
  match ← socket.recv? 65536 with
  | none => return (Http.exchange? true bytes).getD (.unanswered "no answer")
  | some more =>
    let bytes := bytes ++ more.toList
    match Http.exchange? false bytes with
    | some e => return e
    | none => receive socket bytes

/-- Sends a request and reads the answer. -/
def exchange (r : Request) : Async Exchange := do
  let socket ← connect (← places r.url)
  socket.send (ByteArray.mk (Http.requestBytes r).toArray)
  receive socket []

/-- What comes of waiting for so many seconds. -/
def timeout (seconds : Nat) : Async Exchange := do
  sleep (.ofNat (seconds * 1000))
  return .unanswered "operation timed out"

/-- Sends a request and waits so many seconds for the answer. -/
def send (seconds : Nat) : Transport IO := fun r => do
  if r.url.secure then return .unanswered "secure connections are not supported"
  try (Async.race (exchange r) (timeout seconds)).block
  catch e => return .unanswered (toString e)

/-! ### The program -/

/-- The world around the program. -/
def world : Cli.World IO where
  file := readFile
  input := readInput
  send := send
  stamp := do return ((← freshRunId).render, (← now).render)

/-- The names in the environment that count. -/
def names : List String := ["SQL_INGEST_CONFIG", "SQL_INGEST_BASE_URL", "SQL_INGEST_TOKEN"]

end TableFeed.Main

/-- Does what the arguments ask for and ends with the code that says how it went. -/
def main (arguments : List String) : IO UInt32 := do
  let values ← TableFeed.Main.names.mapM fun name => return (name, ← IO.getEnv name)
  let environment (name : String) : Option String := (values.lookup name).join
  let ended ← TableFeed.Main.world.execute environment arguments
  IO.print ended.out
  IO.eprint ended.err
  return UInt32.ofNat ended.code
