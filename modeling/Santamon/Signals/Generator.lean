import Santamon.Signals.Sha256
import Santamon.Events.Accessors
import Santamon.Baseline.Processor
import Santamon.Lineage.Store

namespace Santamon.Signals

open Santamon.Events Santamon.Rules Santamon.Correlation Santamon.Baseline Santamon.Lineage

/-- `state.Signal`, with the fields the generator sets. -/
structure Signal where
  id : String
  ts : Time
  hostID : String
  ruleID : String
  ruleDescription : String
  status : String
  severity : String
  title : String
  tags : List String
  context : EventMap

/-- `signals.Generator`; `lineage` is `none` for a nil store. -/
structure Generator where
  hostID : String
  lineage : Option Lineage.Store

/-- `unicode.IsSpace`: the characters of Unicode's `White_Space` property. -/
def isSpace (c : Char) : Bool :=
  let n := c.toNat
  (9 ≤ n && n ≤ 13) || n = 32 || n = 0x85 || n = 0xA0 || n = 0x1680 || (0x2000 ≤ n && n ≤ 0x200A) ||
    n = 0x2028 || n = 0x2029 || n = 0x202F || n = 0x205F || n = 0x3000

/-- `strings.TrimSpace`. -/
def trimSpace (s : String) : String :=
  ⟨((s.data.dropWhile isSpace).reverse.dropWhile isSpace).reverse⟩

/-- The text `generateSignalID` hashes. -/
def signalData (ruleID : String) (ts : Time) (host identifier : String) : String :=
  ruleID ++ "|" ++ ts.formatRFC3339 ++ "|" ++ host ++ "|" ++ identifier

/-- `Generator.generateSignalID`: the first 16 bytes of the SHA-256 of `signalData`, in hex. -/
def generateSignalID (ruleID : String) (ts : Time) (host identifier : String) : String :=
  hex ((sha256 (utf8Bytes (signalData ruleID ts host identifier))).take 16)

theorem generateSignalID_lower_hex (ruleID : String) (ts : Time) (host identifier : String) :
    (generateSignalID ruleID ts host identifier).length = 32 ∧
      ∀ c ∈ (generateSignalID ruleID ts host identifier).data, c ∈ "0123456789abcdef".toList :=
  ⟨by simp [generateSignalID, hex_length, sha256_length], hex_mem _⟩

/-- `if v != "" { ctx[key] = v }`. -/
def putNonEmpty (ctx : EventMap) (key v : String) : EventMap :=
  if v = "" then ctx else ctx.put key (.str v)

/-- `appendMessageContext`. -/
def appendMessageContext (ctx : EventMap) (msg : SantaMessage) : EventMap :=
  let ctx := putNonEmpty ctx "actor_path" (actorPath msg)
  let ctx := putNonEmpty ctx "actor_team" (actorTeam msg)
  let ctx := putNonEmpty ctx "actor_signing_id" (actorSigningID msg)
  let ctx := putNonEmpty ctx "target_path" (targetPath msg)
  let ctx := putNonEmpty ctx "target_team" (targetTeam msg)
  let ctx := putNonEmpty ctx "target_sha256" (targetSHA256 msg)
  let ctx := putNonEmpty ctx "decision" (decision msg)
  ctx.put "kind" (.str (kind msg))

/-- `execution.args` of an event map, when it is there and not nil. -/
def executionArgs (eventMap : EventMap) : Option Value :=
  match eventMap.field? "execution" with
  | some (.obj ex) =>
    match EventMap.field? ex "args" with
    | none | some .null => none
    | some args => some args
  | _ => none

/-- One field of the `ExtraContext` loop of `FromRuleMatch`. -/
def putExtraField (eventMap ctx : EventMap) (field : String) : EventMap :=
  if field = "" then ctx
  else
    let cleanField := trimPrefix field "event."
    match if cleanField = "execution.args" then executionArgs eventMap else none with
    | some args => ctx.put "execution.args" args
    | none => putNonEmpty ctx cleanField (extractField eventMap cleanField)

/-- The `process_tree` entry of `FromRuleMatch`. -/
def processTree (g : Generator) (rule : Rule) (msg : SantaMessage) : Option Value :=
  match g.lineage, rule.includeProcessTree, msg.event with
  | some store, true, .execution ev =>
    match ev.target.bind (·.id) with
    | some id =>
      let chain := (store.lineage (fromProcessID msg.getBootSessionUuid (some id)) 8).getD []
      if chain.isEmpty then none else some (.list ((serialize chain).map .obj))
    | none => none
  | _, _, _ => none

/-- `Generator.FromRuleMatch`, with `now` the reading of `time.Now()`. -/
def Generator.fromRuleMatch (g : Generator) (m : Match) (now : Time) : Signal :=
  let ts := if m.timestamp.isZero then now else m.timestamp
  let targetIdentifier :=
    if targetSHA256 m.message = "" then targetPath m.message else targetSHA256 m.message
  let context := appendMessageContext [] m.message
  let eventMap := if m.rule.includeEvent || !m.rule.extraContext.isEmpty then
    (eventMapOf m.message).toOption else none
  let context := match eventMap with
    | some em =>
      let context := if m.rule.includeEvent then context.put "event" (.obj em) else context
      m.rule.extraContext.foldl (putExtraField em) context
    | none => context
  let context := match processTree g m.rule m.message with
    | some tree => context.put "process_tree" tree
    | none => context
  ⟨generateSignalID m.ruleID ts g.hostID targetIdentifier, ts, g.hostID, m.ruleID,
    trimSpace m.rule.description, "open", m.severity, m.title, m.tags, context⟩

/-- `ExtractField` at each path in turn until one is not empty. -/
def firstField (sample : EventMap) : List String → String
  | [] => ""
  | p :: ps =>
    let v := extractField sample p
    if v = "" then firstField sample ps else v

/-- The entries `FromWindowMatch` derives from the most recent event of the window. -/
def sampleContext (ctx sample : EventMap) : EventMap :=
  let ctx := ctx.put "sample_event" (.obj sample)
  let ctx := putNonEmpty ctx "actor_path" (firstField sample
    ["execution.instigator.executable.path", "file_access.instigator.executable.path"])
  let ctx := putNonEmpty ctx "actor_team" (firstField sample
    ["execution.instigator.code_signature.team_id", "file_access.instigator.code_signature.team_id"])
  let ctx := putNonEmpty ctx "actor_signing_id" (firstField sample
    ["execution.instigator.code_signature.signing_id",
      "file_access.instigator.code_signature.signing_id"])
  let ctx := putNonEmpty ctx "target_path" (firstField sample
    ["execution.target.executable.path", "file_access.target.path"])
  let ctx := putNonEmpty ctx "target_sha256" (firstField sample
    ["execution.target.executable.hash.hash"])
  let ctx := putNonEmpty ctx "decision" (firstField sample
    ["execution.decision", "file_access.policy_decision"])
  ctx.put "kind" (.str (kindFromMap sample))

/-- `Generator.FromWindowMatch`, with `now` the reading of `time.Now()`. -/
def Generator.fromWindowMatch (g : Generator) (m : WindowMatch) (_bootUUID : String) (now : Time) :
    Signal :=
  let ctx : EventMap :=
    [("group_key", .str m.groupKey), ("event_count", .num m.count), ("window_type", .str "correlation")]
  let ctx := match m.events.getLast? with
    | some sample => sampleContext ctx sample
    | none => ctx
  ⟨generateSignalID m.ruleID now g.hostID m.groupKey, now, g.hostID, m.ruleID,
    trimSpace m.description, "open", m.severity, m.title, m.tags ++ ["correlation"], ctx⟩

/-- `Generator.FromBaselineMatch`, with `now` the reading of `time.Now()`. -/
def Generator.fromBaselineMatch (g : Generator) (m : BaselineMatch) (now : Time) : Signal :=
  let ts := if m.timestamp.isZero then now else m.timestamp
  let context := appendMessageContext
    [("pattern", .str m.pattern), ("in_learning", .bool m.inLearning)] m.message
  ⟨generateSignalID m.ruleID ts g.hostID m.pattern, ts, g.hostID, m.ruleID,
    trimSpace m.description, "open", m.severity, m.title, m.tags ++ ["baseline"], context⟩

/-- `Generator.EnrichSignal`: each enrichment overwrites the context entry of its key. -/
def Generator.enrichSignal (_g : Generator) (sig : Signal) (enrichments : EventMap) : Signal :=
  { sig with context := enrichments.foldl (fun ctx kv => ctx.put kv.1 kv.2) sig.context }

theorem enrichSignal_field? (g : Generator) (sig : Signal) {enrichments : EventMap}
    (hd : (enrichments.map Prod.fst).Nodup) (k : String) :
    (g.enrichSignal sig enrichments).context.field? k =
      (enrichments.field? k).or (sig.context.field? k) := by
  simp only [Generator.enrichSignal]
  induction enrichments generalizing sig with
  | nil => rfl
  | cons kv en ih =>
    obtain ⟨k', v⟩ := kv
    rw [List.map_cons, List.nodup_cons] at hd
    rw [List.foldl_cons, ih { sig with context := sig.context.put k' v } hd.2]
    by_cases hk : k = k'
    · subst hk
      have hn : EventMap.field? en k = none := List.lookup_eq_none_iff.mpr fun p hp =>
        bne_iff_ne.mpr fun h => hd.1 (List.mem_map.mpr ⟨p, hp, h.symm⟩)
      rw [hn, EventMap.field?_put_self]
      simp [EventMap.field?, List.lookup_cons]
    · rw [EventMap.field?_put_ne _ _ hk]
      simp only [EventMap.field?, List.lookup_cons, beq_false_of_ne hk]

end Santamon.Signals
