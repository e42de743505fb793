/-
Revbio.Events — events, their sources, and I/O errors (`events.rs`, and
`std::io::IoError` as far as the crate builds it).

An event carries a reference-counted pointer to the `EventSourceInfo` of
the object it comes from, and `originates_from` compares these pointers.
A queued event keeps its `EventSourceInfo` allocated, so no later source
gets the same address while the event exists: a `SourceId` names one
source for good. The fields of `EventSourceInfo` are never read and are
left out.
-/
import Mathlib.Init

namespace Revbio

/-! ## I/O errors -/

/-- The `std::io::IoErrorKind`s the crate uses. -/
inductive IoErrorKind where
  | endOfFile
  | connectionRefused
  | connectionReset
  | connectionAborted
  | permissionDenied
  | brokenPipe
  | notConnected
  | resourceUnavailable
  | closed
  | otherIoError
  deriving DecidableEq, Repr

structure IoError where
  kind : IoErrorKind
  desc : String
  detail : Option String
  deriving DecidableEq, Repr

/-- Holds either the success value of an IO operation or an error. -/
abbrev IoResult (α : Type) := Except IoError α

/-- `io::standard_error(io::EndOfFile)`. -/
def IoError.endOfFile : IoError := ⟨.endOfFile, "End of file", none⟩

/-! ## Events -/

/-- Address of a source's `EventSourceInfo`. -/
abbrev SourceId := Nat

inductive EventKind where
  | streamClosedEvent
  | ioErrorEvent (err : IoError)
  | dataAvailableEvent (bytes : Nat)
  | timerEvent
  | channelClosedEvent
  | channelMessageEvent
  | connectedEvent
  | clientConnectedEvent
  deriving DecidableEq, Repr

structure Event where
  eventType : EventKind
  isValid : Bool
  sourceInfo : SourceId
  deriving DecidableEq, Repr

/-- The event every push site of the crate builds: `is_valid: true`. -/
def Event.new (eventType : EventKind) (sourceInfo : SourceId) : Event :=
  { eventType, isValid := true, sourceInfo }

@[simp] theorem Event.new_isValid (k : EventKind) (src : SourceId) :
    (Event.new k src).isValid = true := rfl

@[simp] theorem Event.new_sourceInfo (k : EventKind) (src : SourceId) :
    (Event.new k src).sourceInfo = src := rfl

@[simp] theorem Event.new_eventType (k : EventKind) (src : SourceId) :
    (Event.new k src).eventType = k := rfl

/-- The trait implemented by possible sources of events. -/
class EventSource (α : Type) where
  getEventSourceInfo : α → SourceId

def Event.originatesFrom {α : Type} [EventSource α] (ev : Event) (source : α) : Bool :=
  if ev.sourceInfo = EventSource.getEventSourceInfo source then true else false

end Revbio
