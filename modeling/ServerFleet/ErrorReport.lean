import ServerFleet.Detail

/-!
# Error reports

What is known of an error: its kind, its message, a context and the kind of error
behind it. `Kind` lists the kinds of errors there are. Those that carry
a context are the `ReportKind`s; the others come from the system, or from values
that cannot be read.

* `ErrorReport.of`: a report, with its context normalized;
* `record`, `payload`: the two forms in which a report is handed on.
-/

namespace ServerFleet

/-- The kinds of errors that carry a context. -/
inductive ReportKind where
  | general
  /-- An invalid or incomplete topology, found before anything is dispatched. -/
  | configuration
  /-- A transition attempted in a state that forbids it. -/
  | precondition
  /-- A local process or a remote command failed. -/
  | execution
  /-- A control call for one instance failed. -/
  | dispatch
  /-- An administrative request failed. -/
  | administrative
  /-- Purging registrations failed. -/
  | cleanup
  deriving DecidableEq

/-- The kinds of errors that the operating system reports. -/
inductive SystemKind where
  | general
  | timeout
  | nameLookup
  | notFound
  | notDirectory
  | isDirectory
  | alreadyExists
  deriving DecidableEq

/-- The kinds of errors. -/
inductive Kind where
  | reported (kind : ReportKind)
  | system (kind : SystemKind)
  /-- A value out of place. -/
  | value
  /-- A value of the wrong type. -/
  | type
  | runtime
  /-- A key that a mapping does not have. -/
  | key
  /-- Bytes that are no text. -/
  | undecodable
  /-- The interfaces of the machine may not be listed. -/
  | accessDenied
  /-- A process ran out of time. -/
  | processTimeout
  /-- A remote command ended with a failure. -/
  | remoteExit
  /-- A remote command ran out of time. -/
  | remoteTimeout
  /-- Invalid settings. -/
  | settings
  deriving DecidableEq

/-- Whether the operating system reports errors of this kind. -/
def Kind.isSystem : Kind → Bool
  | .system _ => true
  | _ => false

/-- The name of a kind in records and payloads. -/
def ReportKind.name : ReportKind → String
  | general => "FCError"
  | configuration => "ConfigurationError"
  | precondition => "StatePreconditionError"
  | execution => "CommandExecutionError"
  | dispatch => "DispatchFailure"
  | administrative => "AdministrativeShutdownFailure"
  | cleanup => "CleanupFailure"

structure ErrorReport where
  kind : ReportKind
  message : String
  context : Entries Detail
  /-- The kind of the error behind this one. -/
  cause : Option Kind

namespace ErrorReport

/-- A report with the details given, as they are kept. -/
def of (kind : ReportKind) (message : String) (details : Entries Detail)
    (cause : Option Kind) : ErrorReport :=
  ⟨kind, message, Detail.normalizeEntries details, cause⟩

/-- The report as a record. -/
def record (r : ErrorReport) : Entries Detail :=
  [("type", .text r.kind.name), ("message", .text r.message), ("context", .map r.context)]

/-- The report as the payload of another one. -/
def payload (r : ErrorReport) : Entries Detail :=
  [("error_type", .text r.kind.name), ("error", .text r.message),
    ("error_context", .map r.context)]

end ErrorReport

end ServerFleet
