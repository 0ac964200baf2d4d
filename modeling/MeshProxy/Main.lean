import MeshProxy.Listening.AcceptLoop
import MeshProxy.Log.Line
import MeshProxy.Persona.Inbound
import MeshProxy.Routing.Dial
import MeshProxy.Startup.Program
import Std.Async
import Std.Time

/-!
# The command line

Starts the sidecar from the environment, logs to standard output, and runs until it is interrupted or
terminated. What is decided is decided elsewhere; here sockets are opened, bytes are moved and lines are
written. The runtime can neither ask the kernel for the destination of a redirected connection nor carry
TLS, so sessions of the internal and of the TLS listener end with the failure that says so.
-/

namespace MeshProxy.CommandLine
open Std.Async

/-- The error number in an error of the runtime, which may count downwards from zero. -/
def codeOf : IO.Error → Option UInt32
  | .alreadyExists _ code _ => some code
  | .otherError code _ => some code
  | .resourceBusy code _ => some code
  | .resourceVanished code _ => some code
  | .unsupportedOperation code _ => some code
  | .hardwareFault code _ => some code
  | .unsatisfiedConstraints code _ => some code
  | .illegalOperation code _ => some code
  | .protocolError code _ => some code
  | .timeExpired code _ => some code
  | .interrupted _ code _ => some code
  | .noFileOrDirectory _ code _ => some code
  | .invalidArgument _ code _ => some code
  | .permissionDenied _ code _ => some code
  | .resourceExhausted _ code _ => some code
  | .inappropriateType _ code _ => some code
  | .noSuchThing _ code _ => some code
  | .unexpectedEof => none
  | .userError _ => none

def faultOf (e : IO.Error) : IoFault :=
  match codeOf e with
  | some code => .system (if code < 0x80000000 then code else 0 - code).toNat
  | none => .told .other (toString e)

/-- The outcome of an action as a value. -/
def attempt (action : IO α) : IO (Except IoFault α) := do
  match ← action.toBaseIO with
  | .ok a => return .ok a
  | .error e => return .error (faultOf e)

/-! ## Logging -/

def timestamp : IO String := do
  let now ← Std.Time.Timestamp.now
  return (Std.Time.DateTime.ofTimestamp now .UTC).format "uuuu-MM-dd'T'HH:mm:ss.SSSSSS'Z'"

/-- Writes the records that get through the filter. -/
def write (filter : Log.Filter) (records : List Log.Record) : IO Unit := do
  let out ← IO.getStdout
  for r in filter.apply records do
    out.putStrLn (Log.Line.stamped (← timestamp) r)
  out.flush

/-! ## Files -/

/-- Reads files before anyone asks for them. -/
def readFiles (paths : List String) : IO Identity.Files := do
  let contents ← paths.mapM fun (path : String) => do
    return (path, (← attempt (IO.FS.readBinFile path)).map (·.toList))
  return fun path => (contents.lookup path).getD (.error (.system 2))

/-- Copies a trace into the log, line by line. -/
def tap (filter : Log.Filter) (path : String) : IO Unit := do
  match ← attempt (IO.FS.Handle.mk path .read) with
  | .error cause => write filter [(Trace.Event.unopened path cause).record]
  | .ok handle =>
    write filter [(Trace.Event.started path).record]
    let mut tap : Trace.Tap := {}
    let mut open_ := true
    while open_ do
      let arrival : Arrival :=
        match ← attempt (handle.read 8192) with
        | .error cause => .fault cause
        | .ok bytes => .data bytes.toList
      tap := tap.run [arrival]
      write filter (tap.shown.map fun line => (Trace.Event.line line).record)
      tap := { tap with shown := [] }
      open_ := arrival != .data [] && tap.fault?.isNone
    write filter [(Trace.Event.ofResult path tap.result).record]

/-! ## Sockets -/

def ipv6Out (ip : Ipv6) : Std.Net.IPv6Addr := ⟨Vector.ofFn fun i => ip.groups[i.val]?.getD 0⟩

def addressOut : SocketAddress → Std.Net.SocketAddress
  | .v4 ip port => .v4 ⟨⟨#v[ip.a, ip.b, ip.c, ip.d]⟩, port⟩
  | .v6 ip _ port => .v6 ⟨ipv6Out ip, port⟩

def ipIn : Std.Net.IPAddr → Option Ip
  | .v4 ip => some (.v4 ⟨ip.octets[0], ip.octets[1], ip.octets[2], ip.octets[3]⟩)
  | .v6 ip => (Ipv6.ofGroups? ip.segments.toList).map .v6

def addressIn (address : Std.Net.SocketAddress) : Option SocketAddress :=
  (ipIn address.ipAddr).map (SocketAddress.of · address.port)

/-- Reads the port after the last colon of a target and the addresses of the host before it. -/
def lookUp (target : String) : Async (Except IoFault (List Ip)) := do
  match Text.splitLast? ':' target.toList with
  | none => return .ok []
  | some (host, _) =>
    try
      let found ← DNS.getAddrInfo (String.ofList host) ""
      return .ok (found.toList.filterMap ipIn)
    catch e => return .error (faultOf e)

/-- Dials a target: the connection, or what the dial met. -/
def dial (limit : Nat) (target : String) : Async (Option TCP.Socket.Client × Reach) := do
  let found ← lookUp target
  let mut answers : List (SocketAddress × Dial.Answer) := []
  let network (answers : List (SocketAddress × Dial.Answer)) : Dial.Network :=
    ⟨fun _ => found, fun address => (answers.lookup address).getD .silent⟩
  for address in (Dial.addresses (network []) target).toOption.getD [] do
    let socket ← TCP.Socket.Client.mk
    try
      socket.connect (addressOut address)
      socket.noDelay
      return (some socket, .connected .plain)
    catch e => answers := answers ++ [(address, .fails (faultOf e))]
  match Dial.run (network answers) (1000000 * limit) target with
  | .error (.dial _ cause) => return (none, .refused cause)
  | _ => return (none, .silent)

/-- One read as an arrival. -/
def arrivalOf : Option ByteArray → Arrival
  | none => .finish
  | some bytes => .data bytes.toList

/-- The next thing that one of two streams brings. A wait that fails counts as a fault of the client. -/
def next (client : TCP.Socket.Client) (upstream : Option TCP.Socket.Client) :
    Async (Relay.Side × Arrival) := do
  let size : UInt64 := 8192
  let fromClient : Selectable (Relay.Side × Arrival) :=
    .case (client.recvSelector size) fun bytes => return (.client, arrivalOf bytes)
  let fromUpstream := upstream.toArray.map fun socket =>
    .case (socket.recvSelector size) fun bytes => return (.upstream, arrivalOf bytes)
  try
    Selectable.one (#[fromClient] ++ fromUpstream)
  catch e => return (.client, .fault (faultOf e))

/-- Sends what an endpoint has received since it was last looked at, and ends the direction if the
session has. -/
def deliver (socket : TCP.Socket.Client) (sent : Nat) (endpoint : Endpoint) : Async Unit := do
  let bytes := endpoint.received.drop sent
  unless bytes.isEmpty do socket.send bytes.toByteArray
  if endpoint.shut then socket.shutdown

/-- Runs the inbound persona over a connection. -/
def serveInbound (filter : Log.Filter) (plan : Plan) (peer : SocketAddress)
    (client : TCP.Socket.Client) : Async Unit := do
  let span := Log.Span.of .external peer
  let own := plan.internalAddress.toText
  let first : Arrival ←
    try arrivalOf <$> client.recv? (UInt64.ofNat Target.maxBytes)
    catch e => pure (.fault (faultOf e))
  let (upstream, reach) ←
    match Preamble.read [first] with
    | (.arrived target, _) =>
      if target = own then pure (none, .silent) else dial plan.timeout target
    | _ => pure (none, .silent)
  let setting : Inbound.Setting := ⟨own, fun _ => reach⟩
  let mut session := Inbound.start setting { source := [first] }
  let mut sent : Nat × Nat × Nat := (0, 0, 0)
  repeat
    let received := (session.upstream?.map (·.received)).getD []
    write filter ((session.events.drop sent.2.2).map (·.record span))
    try
      deliver client sent.1 session.client
      if let some socket := upstream then
        deliver socket sent.2.1 ((session.upstream?).getD {})
    catch _ => pure ()
    sent := (session.client.received.length, received.length, session.events.length)
    if session.result?.isSome then break
    let (side, arrival) ← next client upstream
    session := Inbound.step setting session side (.arrives arrival)

/-- Serves one connection of a listener. -/
def serve (filter : Log.Filter) (plan : Plan) (role : Role) (peer : SocketAddress)
    (client : TCP.Socket.Client) : Async Unit := do
  let fail (failure : Failure) : Async Unit :=
    write filter [(SessionEvent.failed failure).record (Log.Span.of role peer)]
  match role with
  | .internal => fail (.resolution (.queryFailed (.system 95)))
  | .external => serveInbound filter plan peer client
  | .externalTls => fail (.handshake (.tlsRefused (.plain .unsupported)))

/-- The addresses of a connection that has been accepted. -/
def connectionOf (client : TCP.Socket.Client) : Async Connection := do
  let some peer := addressIn (← client.getPeerName) | throw (IO.userError "no peer address")
  let ownEnd ←
    try addressIn <$> client.getSockName
    catch _ => pure none
  return ⟨peer, ownEnd⟩

/-- Waits for an answer to an accept or for the request to stop: the answer, and the socket behind a
connection. -/
def nextIncoming (stop : Std.CancellationToken) (server : TCP.Socket.Server) :
    Async (Option Incoming × Option TCP.Socket.Client) := do
  try
    let accepted ← Selectable.one #[
      .case stop.selector fun _ => pure none,
      .case server.acceptSelector fun client => pure (some client)]
    match accepted with
    | none => return (none, none)
    | some client => return (some (.connection (← connectionOf client)), some client)
  catch e => return (some (.fault (faultOf e)), none)

/-- Accepts connections until told to stop. -/
def accept (filter : Log.Filter) (plan : Plan) (role : Role) (stop : Std.CancellationToken)
    (server : TCP.Socket.Server) : Async Unit := do
  let mut loop : AcceptLoop := {}
  while !loop.closed do
    let (incoming, client) ← if ← stop.isCancelled then pure (none, none) else nextIncoming stop server
    if let some incoming := incoming then loop := loop.note (.incoming incoming)
    if ← stop.isCancelled then loop := loop.note .stop
    let (next, handed) := loop.turn
    write filter (next.events.map (·.record role))
    if let (some connection, some client) := (handed, client) then
      background (serve filter plan role connection.peer client)
    loop := { next with events := [] }

/-- Opens a listener. -/
def openListener (listener : Listener) : IO (Except IoFault TCP.Socket.Server) := attempt do
  let server ← TCP.Socket.Server.mk
  server.bind (addressOut listener.address)
  server.listen 1024
  return server

/-! ## The program -/

/-- Waits until the program is interrupted or terminated. -/
def waitForSignal : Async Unit := do
  let interrupted ← Signal.Waiter.mk .sigint false
  let terminated ← Signal.Waiter.mk .sigterm false
  Selectable.one #[
    .case interrupted.selector fun _ => pure (),
    .case terminated.selector fun _ => pure ()]

/-- Opens the listeners of a plan and serves them until a signal comes. -/
def serveAll (filter : Log.Filter) (plan : Plan) : Async (Except Chain Unit) := do
  let stop ← Std.CancellationToken.new
  if plan.gateway then write filter [LineupEvent.internalDisabled.record]
  let mut loops : Array (AsyncTask Unit) := #[]
  for listener in plan.listeners do
    match ← openListener listener with
    | .error cause => return .error (listener.failure cause)
    | .ok server =>
      write filter [(ListenerEvent.listening listener.address).record listener.role]
      loops := loops.push (← async (accept filter plan listener.role stop server))
  waitForSignal
  write filter [Program.note "shutdown signal received"]
  stop.cancel
  for loop in loops do await loop
  return .ok ()

/-- Tells of an error and of the exit code that goes with it. -/
def fail (complaint : String) : IO UInt32 := do
  IO.eprint complaint
  return 1

def run : IO UInt32 := do
  let env : Environment := (← Std.Internal.UV.System.osEnviron).toList
  match Settings.ofEnvironment env with
  | .error fault => fail (Program.settingsReport fault)
  | .ok s =>
    let filter := Program.filterOf env s
    let (records, plan) := Program.prepare (← readFiles (Identity.paths s)) s
    write filter records
    match plan with
    | .error chain => fail (Program.errorReport chain)
    | .ok plan =>
      if s.traceTap then discard <| IO.asTask (tap filter s.tracePipePath) .dedicated
      match ← (serveAll filter plan).block with
      | .error chain => fail (Program.errorReport chain)
      | .ok () =>
        write filter [Program.note "sidecar stopped"]
        return 0

end MeshProxy.CommandLine

def main : IO UInt32 := MeshProxy.CommandLine.run
