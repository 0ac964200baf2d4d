import MeshProxy.Identity.Source
import MeshProxy.Listening.Lineup
import MeshProxy.Log.Filter
import MeshProxy.Settings.Read
import MeshProxy.Startup.Planning
import MeshProxy.Trace.Tap

/-!
# The program

A run from the environment to the end: settings, logging, certificates, the plan, the trace tap, the
listeners. The first thing that fails ends the run with an error report. A run in which everything is up goes on
until it is told to stop, and then closes its listeners in order.
-/

namespace MeshProxy

/-- The part of the outside world that a start depends on. -/
structure Host where
  files : Identity.Files
  /-- Why an address cannot be bound, if it cannot. -/
  bind : SocketAddress → Option IoFault
  /-- What opening the kernel's trace yields. -/
  openTrace : String → Except IoFault Source

/-- What a run leaves behind. -/
structure Outcome where
  exitCode : Nat
  complaint : String := ""
  log : List Log.Record := []
deriving DecidableEq, Repr

namespace Program

/-- A record about the program as a whole. -/
def note (message : String) (fields : List (String × Log.Value) := []) : Log.Record :=
  { level := .info, target := "sidecar", message, fields }

/-- The last lines of a run that failed. -/
def errorReport (chain : Chain) : String := "Error: " ++ chain.report ++ "\n"

/-- The last lines of a run whose settings cannot be used. -/
def settingsReport (fault : SettingsFault) : String :=
  "ERROR: sidecar configuration invalid: " ++ fault.chain.message ++ "\n" ++ errorReport fault.chain

/-- The variable that overrides the log level, which keeps its upper-case name. -/
def overrideName : String := "RUST_LOG"

/-- The text of a variable by its exact name; of two settings the later one counts. -/
def exactValue? (env : Environment) (name : String) : Option String :=
  (env.reverse.find? fun entry => entry.1 == name).map (·.2)

/-- The filter that settings and the variable for it ask for. -/
def filterOf (env : Environment) (s : Settings) : Log.Filter :=
  Log.Filter.choose (exactValue? env overrideName) s.logLevel

/-- What has been made by the time the listeners are to be opened, and what was reported. -/
def prepare (files : Identity.Files) (s : Settings) : List Log.Record × Except Chain Plan :=
  let (bundle, events) := Identity.load files s
  (note "starting mesh sidecar" [("cfg", .text s.summary)] :: events.map (·.record),
    Plan.ofSettings s bundle)

/-- What the trace tap reports, if it is asked for. -/
def tapRecords (host : Host) (s : Settings) : List Log.Record :=
  if s.traceTap then
    (Trace.report s.tracePipePath (host.openTrace s.tracePipePath)).map (·.record)
  else []

/-- Everything that is reported by a run with these settings, which is told to stop once it is up, and
how it ends. -/
def records (host : Host) (s : Settings) : List Log.Record × Except Chain Unit :=
  match prepare host.files s with
  | (before, .error chain) => (before, .error chain)
  | (before, .ok plan) =>
    let before := before ++ tapRecords host s
    match plan.openListeners host.bind with
    | (opening, .error chain) => (before ++ opening.map (·.record), .error chain)
    | (opening, .ok ()) =>
      (before ++ opening.map (·.record) ++ [note "shutdown signal received"] ++
        plan.closing.map (·.record) ++ [note "sidecar stopped"], .ok ())

/-- A run that is told to stop once it is up. -/
def run (host : Host) (env : Environment) : Outcome :=
  match Settings.ofEnvironment env with
  | .error fault =>
    { exitCode := 1, complaint := settingsReport fault }
  | .ok s =>
    let filter := filterOf env s
    match records host s with
    | (log, .ok ()) => { exitCode := 0, log := filter.apply log }
    | (log, .error chain) =>
      { exitCode := 1, complaint := errorReport chain, log := filter.apply log }

end Program

end MeshProxy
