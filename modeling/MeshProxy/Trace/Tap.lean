import MeshProxy.Log.Record
import MeshProxy.Stream.Source

/-!
# The trace tap

For diagnosis the tap copies the kernel's trace into the log, one record for each line. A line ends at a line
feed, and one carriage return in front of that belongs to the end; what follows the last line feed is a line
of its own if it is not empty, with all its carriage returns. The tap stops at the end of the trace, at a
fault, and at the first line that is not text.
-/

namespace MeshProxy.Trace

/-- Why the tap cannot go on. -/
inductive Fault where
  | unreadable (cause : IoFault)
  | notText (fault : Text.Utf8Fault)
deriving DecidableEq, Repr

def Fault.message : Fault → String
  | .unreadable cause => cause.message
  | .notText fault => fault.message

/-- A tap at work: the bytes of the line that has not ended, last one first, how many lines it has seen, the
lines it has shown, and the fault it has met. -/
structure Tap where
  pending : Bytes := []
  seen : Nat := 0
  shown : List String := []
  fault? : Option Fault := none
deriving DecidableEq, Repr

namespace Tap

/-- Counts a line and shows it, if it is text. -/
def emit (tap : Tap) (line : Bytes) : Tap :=
  match Text.ofUtf8 line with
  | .ok text => { tap with pending := [], seen := tap.seen + 1, shown := tap.shown ++ [text] }
  | .error fault => { tap with pending := [], fault? := some (.notText fault) }

/-- The bytes of a line whose line feed has come, from its pending bytes. -/
def endedLine : Bytes → Bytes
  | 0x0D :: before => before.reverse
  | pending => pending.reverse

/-- Takes one more byte. After a fault nothing happens any more. -/
def feed (tap : Tap) (byte : UInt8) : Tap :=
  if tap.fault?.isSome then tap
  else if byte = 0x0A then tap.emit (endedLine tap.pending)
  else { tap with pending := byte :: tap.pending }

/-- Takes what one read has brought. -/
def feedAll (tap : Tap) (bytes : Bytes) : Tap := bytes.foldl feed tap

/-- Takes the end of the trace: what has not ended is the last line, unless it is empty. -/
def finish (tap : Tap) : Tap :=
  if tap.fault?.isSome ∨ tap.pending = [] then tap else tap.emit tap.pending.reverse

/-- Runs through arrivals until the trace ends, fails, or has nothing more to read. A read that brings no
byte is the end. -/
def run (tap : Tap) : Source → Tap
  | [] => tap
  | .finish :: _ => tap.finish
  | .data [] :: _ => tap.finish
  | .fault cause :: _ =>
    if tap.fault?.isSome then tap else { tap with fault? := some (.unreadable cause) }
  | .data bytes :: rest => (tap.feedAll bytes).run rest

/-- What a tap that is over has come to: the number of lines it has seen, or the fault it has met. -/
def result (tap : Tap) : Except Fault Nat :=
  match tap.fault? with
  | some fault => .error fault
  | none => .ok tap.seen

end Tap

/-- What a tap reports. -/
inductive Event where
  | unopened (path : String) (cause : IoFault)
  | started (path : String)
  | line (text : String)
  | stopped (path : String) (lines : Nat)
  | failed (path : String) (fault : Fault)
deriving DecidableEq, Repr

/-- The last event of a tap, from what it has come to. -/
def Event.ofResult (path : String) : Except Fault Nat → Event
  | .ok lines => .stopped path lines
  | .error fault => .failed path fault

def Event.record : Event → Log.Record
  | .unopened path cause =>
    { level := .warn, target := "sidecar::trace_tap", message := "unable to open trace pipe"
      fields := [("path", .text path), ("error", .text cause.message)] }
  | .started path =>
    { level := .info, target := "sidecar::trace_tap", message := "trace tap started"
      fields := [("path", .text path)] }
  | .line text => { level := .info, target := "trace_tap", message := text }
  | .stopped path lines =>
    { level := .info, target := "sidecar::trace_tap", message := "trace tap stopped"
      fields := [("path", .text path), ("lines", .number lines)] }
  | .failed path fault =>
    { level := .warn, target := "sidecar::trace_tap", message := "trace tap read failed"
      fields := [("path", .text path), ("error", .text fault.message)] }

/-- Copies a trace into the log line by line: what is reported of the lines, and what the tap has come to. -/
def pump (source : Source) : List Event × Except Fault Nat :=
  let tap := Tap.run {} source
  (tap.shown.map .line, tap.result)

/-- Everything a tap on a path reports, from what opening it yields. When nothing more arrives the tap is
told to stop. -/
def report (path : String) : Except IoFault Source → List Event
  | .error cause => [.unopened path cause]
  | .ok source =>
    let (lines, result) := pump source
    .started path :: (lines ++ [.ofResult path result])

end MeshProxy.Trace
