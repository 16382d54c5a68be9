import ComponentDocs.Component.Vocabulary

/-! Byte sinks that may fail. A sink takes bytes until its room is spent, the
last write in part, and counts how often it is flushed. -/
namespace ComponentDocs

/-- Why a sink refuses. A write that was only interrupted is tried again by every
caller, so an interruption is no reason for refusal. -/
inductive FailureKind
  | notFound
  | permissionDenied
  | connectionRefused
  | connectionReset
  | hostUnreachable
  | networkUnreachable
  | connectionAborted
  | notConnected
  | addrInUse
  | addrNotAvailable
  | networkDown
  | brokenPipe
  | alreadyExists
  | wouldBlock
  | notADirectory
  | isADirectory
  | directoryNotEmpty
  | readOnlyFilesystem
  | staleNetworkFileHandle
  | invalidInput
  | invalidData
  | timedOut
  | writeZero
  | storageFull
  | notSeekable
  | quotaExceeded
  | fileTooLarge
  | resourceBusy
  | executableFileBusy
  | deadlock
  | crossesDevices
  | tooManyLinks
  | invalidFilename
  | argumentListTooLong
  | unsupported
  | unexpectedEof
  | outOfMemory
  | other
deriving DecidableEq

instance : Vocabulary FailureKind where
  words := [.notFound, .permissionDenied, .connectionRefused, .connectionReset,
    .hostUnreachable, .networkUnreachable, .connectionAborted, .notConnected, .addrInUse,
    .addrNotAvailable, .networkDown, .brokenPipe, .alreadyExists, .wouldBlock, .notADirectory,
    .isADirectory, .directoryNotEmpty, .readOnlyFilesystem, .staleNetworkFileHandle,
    .invalidInput, .invalidData, .timedOut, .writeZero, .storageFull, .notSeekable,
    .quotaExceeded, .fileTooLarge, .resourceBusy, .executableFileBusy, .deadlock,
    .crossesDevices, .tooManyLinks, .invalidFilename, .argumentListTooLong, .unsupported,
    .unexpectedEof, .outOfMemory, .other]
  name
    | .notFound => "NotFound"
    | .permissionDenied => "PermissionDenied"
    | .connectionRefused => "ConnectionRefused"
    | .connectionReset => "ConnectionReset"
    | .hostUnreachable => "HostUnreachable"
    | .networkUnreachable => "NetworkUnreachable"
    | .connectionAborted => "ConnectionAborted"
    | .notConnected => "NotConnected"
    | .addrInUse => "AddrInUse"
    | .addrNotAvailable => "AddrNotAvailable"
    | .networkDown => "NetworkDown"
    | .brokenPipe => "BrokenPipe"
    | .alreadyExists => "AlreadyExists"
    | .wouldBlock => "WouldBlock"
    | .notADirectory => "NotADirectory"
    | .isADirectory => "IsADirectory"
    | .directoryNotEmpty => "DirectoryNotEmpty"
    | .readOnlyFilesystem => "ReadOnlyFilesystem"
    | .staleNetworkFileHandle => "StaleNetworkFileHandle"
    | .invalidInput => "InvalidInput"
    | .invalidData => "InvalidData"
    | .timedOut => "TimedOut"
    | .writeZero => "WriteZero"
    | .storageFull => "StorageFull"
    | .notSeekable => "NotSeekable"
    | .quotaExceeded => "QuotaExceeded"
    | .fileTooLarge => "FileTooLarge"
    | .resourceBusy => "ResourceBusy"
    | .executableFileBusy => "ExecutableFileBusy"
    | .deadlock => "Deadlock"
    | .crossesDevices => "CrossesDevices"
    | .tooManyLinks => "TooManyLinks"
    | .invalidFilename => "InvalidFilename"
    | .argumentListTooLong => "ArgumentListTooLong"
    | .unsupported => "Unsupported"
    | .unexpectedEof => "UnexpectedEof"
    | .outOfMemory => "OutOfMemory"
    | .other => "Other"

/-- A refusal, with the text that goes with it. -/
structure Failure where
  kind : FailureKind
  message : String
deriving DecidableEq

/-- What a write that makes no progress amounts to. -/
def Failure.noProgress : Failure := ⟨.writeZero, "failed to write whole buffer"⟩

/-- A call on a sink. A write is complete when the sink took all that was offered. -/
inductive SinkCall
  | write (complete : Bool)
  | flush
deriving DecidableEq

/-- A sink and what it has done so far, with its calls from the latest to the first.
`room` is what it still accepts, without limit if absent. Out of room it fails with
`writeFailure`, or makes no progress if there is none. -/
structure Sink where
  taken : ByteArray := .empty
  flushes : Nat := 0
  calls : List SinkCall := []
  room : Option Nat := none
  writeFailure : Option Failure := none
  flushFailure : Option Failure := none

namespace Sink

/-- Offers bytes. The sink takes as many as it has room for, and the write succeeds
if those are all. -/
def write (bytes : ByteArray) (sink : Sink) : Except Failure Unit × Sink :=
  match sink.room with
  | none =>
    (.ok (), { sink with taken := sink.taken ++ bytes, calls := .write true :: sink.calls })
  | some room =>
    if bytes.size ≤ room then
      (.ok (),
        { sink with
          taken := sink.taken ++ bytes
          calls := .write true :: sink.calls
          room := some (room - bytes.size) })
    else
      (.error (sink.writeFailure.getD .noProgress),
        { sink with
          taken := sink.taken ++ bytes.extract 0 room
          calls := .write false :: sink.calls
          room := some 0 })

/-- Offers a text in UTF-8. -/
def writeText (text : List Char) (sink : Sink) : Except Failure Unit × Sink :=
  sink.write (String.ofList text).toUTF8

/-- Every flush counts, also one that fails. -/
def flush (sink : Sink) : Except Failure Unit × Sink :=
  (match sink.flushFailure with
    | none => .ok ()
    | some failure => .error failure,
   { sink with flushes := sink.flushes + 1, calls := .flush :: sink.calls })

end Sink

end ComponentDocs
