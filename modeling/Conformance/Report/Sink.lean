import Conformance.Host.IoError
import Conformance.Text.Utf8

/-!
# Sinks

Where a report is written to. A sink may stop accepting octets at some point; a write that crosses
this point leaves the octets that fit, and from then on every write fails.

A full device accepts nothing. It is written to through a buffer that holds one line of up to
1024 octets, so only a longer line, or the end of a line, finds out.

This is what the specification's Reporter writes to (§4.5). That it may fail, as a closed output does, is
in §10.6.
-/

namespace Conformance

/-- What a sink does with octets. -/
inductive Device where
  /-- It keeps them, up to a limit if there is one. -/
  | memory (limit : Option Nat)
  /-- It refuses them. -/
  | full
  deriving DecidableEq, Repr

/-- A sink and what it has accepted: the writes, last first, and the number of octets. -/
structure Sink where
  device : Device
  flushFails : Bool
  writes : List Bytes
  size : Nat
  deriving DecidableEq, Repr

namespace Sink

/-- A sink that has accepted nothing yet. -/
def fresh (device : Device) (flushFails : Bool) : Sink := ⟨device, flushFails, [], 0⟩

/-- A sink that never fails. -/
def unlimited : Sink := fresh (.memory none) false

/-- What has been accepted. -/
def content (s : Sink) : Bytes := s.writes.reverse.flatten

/-- The number of line feeds among the accepted octets. -/
def lineFeeds (s : Sink) : Nat := s.content.count 0x0A

/-- A sink with more octets accepted. -/
def accept (s : Sink) (data : Bytes) : Sink :=
  { s with writes := data :: s.writes, size := s.size + data.length }

/-- How long a line the buffer in front of a full device holds. -/
def lineBuffer : Nat := 1024

/-- Writes octets. What could not be written is told by an error. -/
def write (s : Sink) (data : Bytes) : Sink × Option IoError :=
  match s.device with
  | .memory none => (s.accept data, none)
  | .memory (some limit) =>
    let room := limit - s.size
    if data.length ≤ room then (s.accept data, none)
    else (s.accept (data.take room), some .brokenPipe)
  | .full =>
    if data.contains 0x0A || lineBuffer < s.size + data.length then (s, some (.system .noSpace))
    else ({ s with size := s.size + data.length }, none)

/-- Writes text. -/
def writeText (s : Sink) (text : String) : Sink × Option IoError :=
  s.write (Utf8.encodeString text)

/-- Flushes the sink. -/
def flush (s : Sink) : Option IoError := if s.flushFails then some .brokenPipe else none

end Sink
end Conformance
