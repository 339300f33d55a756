import Santamon.Events.Message

namespace Santamon.Lineage

open Santamon.Events

/-- `lineage.Key`: a process within a boot session. -/
structure Key where
  bootUUID : String
  pid : Int
  pidVersion : Int
  deriving Repr, DecidableEq

/-- `Key{}`. -/
def Key.zero : Key := ⟨"", 0, 0⟩

/-- `Key.IsZero`. -/
def Key.isZero (k : Key) : Bool := k.bootUUID == "" && k.pid == 0 && k.pidVersion == 0

/-- `FromProcessID`. -/
def fromProcessID (bootUUID : String) : Option ProcessID → Key
  | none => Key.zero
  | some pid => ⟨bootUUID, pid.pid.getD 0, pid.pidversion.getD 0⟩

/-- `lineage.Node`. -/
structure Node where
  key : Key
  parent : Key
  responsible : Key
  path : String
  user : String
  uid : Int
  group : String
  gid : Int
  sessionID : Int
  args : List String
  startTime : Time
  createdAt : Time
  deriving Repr, DecidableEq

/-- `lineage.Store`; the map `nodes` is the list of its entries in one iteration order. -/
structure Store where
  nodes : List (Key × Node)
  maxEntries : Int
  ttl : Duration
  deriving Repr

structure Config where
  maxEntries : Int
  ttl : Duration

/-- `NewStore`: 50000 entries and one hour unless the config sets positive values. -/
def newStore (cfg : Config) : Store :=
  ⟨[], if cfg.maxEntries ≤ 0 then 50000 else cfg.maxEntries,
    if cfg.ttl ≤ 0 then 3600000000000 else cfg.ttl⟩

/-- `s.nodes[k]`. -/
def Store.get? (s : Store) (k : Key) : Option Node := s.nodes.lookup k

/-- `s.nodes[k] = n`. -/
def Store.set (s : Store) (k : Key) (n : Node) : Store :=
  { s with nodes := s.nodes.filter (·.1 != k) ++ [(k, n)] }

/-- `delete(s.nodes, k)`. -/
def Store.delete (s : Store) (k : Key) : Store :=
  { s with nodes := s.nodes.filter (·.1 != k) }

/-- `decodeArgs`. -/
def decodeArgs (raw : List (List UInt8)) : List String := raw.map bytesToString

/-- `parentID`: the target's parent, else the instigator. -/
def parentID (ev : Execution) : Option ProcessID :=
  match ev.target.bind (·.parentId) with
  | some p => some p
  | none => ev.instigator.bind (·.id)

/-- `evictExpiredLocked`: drop every node created before `now - ttl`. -/
def Store.evictExpiredLocked (s : Store) (now : Time) : Store :=
  if s.ttl ≤ 0 ∨ s.nodes.isEmpty then s
  else { s with nodes := s.nodes.filter fun kn => !(kn.2.createdAt < now - s.ttl) }

/-- The loop of `evictOldestLocked`. -/
def oldestFrom : Key × Time → List (Key × Node) → Key × Time
  | acc, [] => acc
  | acc, (k, n) :: rest => oldestFrom (if n.createdAt < acc.2 then (k, n.createdAt) else acc) rest

/-- `evictOldestLocked`: delete the oldest node, unless its key is the zero key. -/
def Store.evictOldestLocked (s : Store) : Store :=
  match s.nodes with
  | [] => s
  | (k, n) :: rest =>
    let oldestKey := (oldestFrom (k, n.createdAt) rest).1
    if oldestKey.isZero then s else s.delete oldestKey

/-- The evictions `UpsertFromExecution` runs before it writes. -/
def Store.makeRoom (s : Store) (now : Time) : Store :=
  let s := s.evictExpiredLocked now
  if s.maxEntries ≤ s.nodes.length then s.evictOldestLocked else s

/-- The node `UpsertFromExecution` builds for a target with ID `id`, at clock reading `now`. -/
def nodeOf (boot : String) (ev : Execution) (target : ProcessInfo) (id : ProcessID) (now : Time) :
    Node :=
  { key := fromProcessID boot (some id)
    parent := fromProcessID boot (parentID ev)
    responsible := fromProcessID boot target.responsibleId
    path := (target.executable.bind (·.path)).getD ""
    user := (target.effectiveUser.bind (·.name)).getD ""
    uid := (target.effectiveUser.bind (·.uid)).getD 0
    group := (target.effectiveGroup.bind (·.name)).getD ""
    gid := (target.effectiveGroup.bind (·.gid)).getD 0
    sessionID := target.sessionId.getD 0
    args := decodeArgs ev.args
    startTime := (target.startTime.map Timestamp.asTime).getD zeroTime
    createdAt := now }

/-- `Store.UpsertFromExecution` at clock reading `now`. -/
def Store.upsertFromExecution (s : Store) (msg : Option SantaMessage) (ev : Option Execution)
    (now : Time) : Store :=
  match msg, ev with
  | some msg, some ev =>
    match ev.target with
    | some target =>
      match target.id with
      | some id =>
        let node := nodeOf msg.getBootSessionUuid ev target id now
        (s.makeRoom now).set node.key node
      | none => s
    | none => s
  | _, _ => s

/-- The loop of `Lineage`, with `fuel` slots left in the chain and the keys `seen` so far. -/
def Store.chain (s : Store) : Nat → Node → List Key → List Node
  | 0, _, _ => []
  | fuel + 1, current, seen =>
    current :: if current.parent.isZero then [] else
      match s.get? current.parent with
      | none => []
      | some next =>
        if next.key ∈ current.key :: seen then [] else s.chain fuel next (current.key :: seen)

/-- `Store.Lineage`; `none` is the nil slice it returns for an empty store. -/
def Store.lineage (s : Store) (key : Key) (maxDepth : Int) : Option (List Node) :=
  let maxDepth := if maxDepth ≤ 0 then 8 else maxDepth
  if s.nodes.isEmpty then none
  else match s.get? key with
    | none => some []
    | some current => some (s.chain maxDepth.toNat current [])

/-- `Serialize`: one map per node of a chain, the first the target, the second its parent. -/
def serialize (nodes : List Node) : List EventMap :=
  nodes.enum.map fun (i, n) =>
    let m : EventMap :=
      [("relation", .str (if i = 0 then "target" else if i = 1 then "parent" else "ancestor")),
        ("depth", .num i), ("pid", .num n.key.pid), ("pidversion", .num n.key.pidVersion),
        ("path", .str n.path), ("user", .str n.user), ("uid", .num n.uid), ("group", .str n.group),
        ("gid", .num n.gid), ("session_id", .num n.sessionID), ("start_time", .time n.startTime)]
    if n.args.isEmpty then m else m.put "args" (.list (n.args.map .str))

end Santamon.Lineage
