import FleetBridge.Fault
import FleetBridge.Sample.Basic

/-!
A sink that keeps its samples in memory. Its first attempts to connect may fail, and it may be told
to reject what is written.
-/
namespace FleetBridge

/-- The place of a sink among all that there are. -/
abbrev SinkId := Nat

structure MemorySink where
  failures : Nat
  attempts : Nat
  connected : Bool
  rejecting : Bool
  samples : List Sample

namespace MemorySink

def address : String := "memory://sink"

def start (failures : Nat) : MemorySink := ⟨failures, 0, false, false, []⟩

def connect (s : MemorySink) : Except SinkFault Unit × MemorySink :=
  let s := { s with attempts := s.attempts + 1 }
  match s.failures with
  | n + 1 => (.error (.connect address "refused"), { s with failures := n })
  | 0 => (.ok (), { s with connected := true })

def write (x : Sample) (s : MemorySink) : Except SinkFault Unit × MemorySink :=
  if !s.connected then (.error .notConnected, s)
  else if s.rejecting then (.error (.write x.measurement "rejected"), s)
  else (.ok (), { s with samples := s.samples ++ [x] })

end MemorySink
end FleetBridge
