import Santamon.Events.Value

namespace Santamon.Events

/-- A `ProcessID`: pid and pidversion, each unset or an `int32`. -/
structure ProcessID where
  pid : Option Int
  pidversion : Option Int
  deriving Repr, DecidableEq

structure Hash where
  hash : Option String
  deriving Repr, DecidableEq

structure FileInfo where
  path : Option String
  hash : Option Hash
  deriving Repr, DecidableEq

structure FileInfoLight where
  path : Option String
  deriving Repr, DecidableEq

structure UserInfo where
  uid : Option Int
  name : Option String
  deriving Repr, DecidableEq

structure GroupInfo where
  gid : Option Int
  name : Option String
  deriving Repr, DecidableEq

structure CodeSignature where
  teamId : Option String
  signingId : Option String
  deriving Repr, DecidableEq

structure ProcessInfo where
  id : Option ProcessID
  parentId : Option ProcessID
  responsibleId : Option ProcessID
  executable : Option FileInfo
  effectiveUser : Option UserInfo
  effectiveGroup : Option GroupInfo
  sessionId : Option Int
  startTime : Option Timestamp
  codeSignature : Option CodeSignature
  isPlatformBinary : Option Bool
  deriving Repr, DecidableEq

structure ProcessInfoLight where
  id : Option ProcessID
  executable : Option FileInfoLight
  deriving Repr, DecidableEq

/-- An `Execution` event; `decision` is the enum's number. -/
structure Execution where
  instigator : Option ProcessInfoLight
  target : Option ProcessInfo
  decision : Option Nat
  args : List (List UInt8)
  envs : List (List UInt8)
  deriving Repr, DecidableEq

structure FileAccess where
  instigator : Option ProcessInfo
  target : Option FileInfoLight
  policyName : Option String
  policyDecision : Option Nat
  deriving Repr, DecidableEq

structure XProtectDetected where
  detectedPath : Option String
  deriving Repr, DecidableEq

structure XProtect where
  detected : Option XProtectDetected
  deriving Repr, DecidableEq

/-- The event kinds of `EventTypes` that no function of the repository reads field by field. -/
inductive OtherKind where
  | fork | exit | close | rename | unlink | link | exchangedata | disk | bundle | allowlist
  | codesigningInvalidated | loginWindowSession | loginLogout | screenSharing | openSsh
  | authentication | clone | copyfile | gatekeeperOverride | launchItem | tccModification
  deriving Repr, DecidableEq

def OtherKind.name : OtherKind → String
  | .fork => "fork" | .exit => "exit" | .close => "close" | .rename => "rename"
  | .unlink => "unlink" | .link => "link" | .exchangedata => "exchangedata" | .disk => "disk"
  | .bundle => "bundle" | .allowlist => "allowlist"
  | .codesigningInvalidated => "codesigning_invalidated"
  | .loginWindowSession => "login_window_session" | .loginLogout => "login_logout"
  | .screenSharing => "screen_sharing" | .openSsh => "open_ssh"
  | .authentication => "authentication" | .clone => "clone" | .copyfile => "copyfile"
  | .gatekeeperOverride => "gatekeeper_override" | .launchItem => "launch_item"
  | .tccModification => "tcc_modification"

theorem OtherKind.name_ne_execution (k : OtherKind) : k.name ≠ "execution" := by
  cases k <;> decide

theorem OtherKind.name_ne_file_access (k : OtherKind) : k.name ≠ "file_access" := by
  cases k <;> decide

/-- The `event` oneof of a `SantaMessage`; the other kinds carry their protojson object. -/
inductive Event where
  | execution (e : Execution)
  | fileAccess (f : FileAccess)
  | xprotect (x : XProtect)
  | other (kind : OtherKind) (payload : EventMap)
  | unset

structure SantaMessage where
  machineId : Option String
  bootSessionUuid : Option String
  eventTime : Option Timestamp
  processedTime : Option Timestamp
  event : Event

def SantaMessage.getMachineId (msg : SantaMessage) : String := msg.machineId.getD ""

def SantaMessage.getBootSessionUuid (msg : SantaMessage) : String := msg.bootSessionUuid.getD ""

/-- `events.Kind`. -/
def kind (msg : SantaMessage) : String :=
  match msg.event with
  | .execution _ => "execution"
  | .fileAccess _ => "file_access"
  | .xprotect _ => "xprotect"
  | .other k _ => k.name
  | .unset => "unknown"

/-- The zero `time.Time`, January 1 of year 1, 00:00:00 UTC. -/
def zeroTime : Time := -62135596800000000000

/-- `t.IsZero()`. -/
def Time.isZero (t : Time) : Bool := t = zeroTime

/-- `events.EventTime`: the zero `time.Time` when unset. -/
def eventTime (msg : SantaMessage) : Time := (msg.eventTime.map Timestamp.asTime).getD zeroTime

/-- Go's `string(b)`: one character per byte. -/
def bytesToString (b : List UInt8) : String := ⟨b.map (fun x => Char.ofNat x.toNat)⟩

/-- `events.DecodedArgs`. -/
def decodedArgs (msg : SantaMessage) : List String :=
  match msg.event with
  | .execution e => e.args.map bytesToString
  | _ => []

end Santamon.Events
