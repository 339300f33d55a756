import Santamon.State.DB
import Santamon.Rules.Engine
import Mathlib.Data.List.Dedup

namespace Santamon.Correlation

open Santamon.Events Santamon.Rules Santamon.State

structure WindowManager where
  maxEvents : Int
  gcInterval : Duration
  lastGC : Time

structure WindowMatch where
  ruleID : String
  title : String
  severity : String
  tags : List String
  description : String
  count : Nat
  events : List EventMap
  groupKey : String
  rule : CorrelationRule

/-- The `field=value` segments of `extractGroupKey` and `extractPattern`, joined by `|`. -/
def joinFields (event : EventMap) (fields : List String) : String :=
  "|".intercalate (fields.map fun field =>
    let cleanField := trimPrefix field "event."
    cleanField ++ "=" ++ extractField event cleanField)

/-- `WindowManager.extractGroupKey`. -/
def extractGroupKey (event : EventMap) (groupBy : List String) : String :=
  if groupBy = [] then "_global" else joinFields event groupBy

/-- The values `countEvents` collects: the non-empty `count_distinct` fields. -/
def distinctValues (windowEvents : List EventMap) (field : String) : List String :=
  (windowEvents.map fun evt => extractField evt (trimPrefix field "event.")).filter (· ≠ "")

/-- `WindowManager.countEvents`. -/
def countEvents (windowEvents : List EventMap) (rule : CorrelationRule) : Nat :=
  if rule.countDistinct ≠ "" then (distinctValues windowEvents rule.countDistinct).dedup.length
  else windowEvents.length

/-- `withinWindow`. -/
def withinWindow (event : EventMap) (now : Time) (window : Duration) : Bool :=
  if window = 0 then true
  else match event.field? "event_time" with
    | some (.time ts) => Time.sub now ts ≤ window
    | some (.str s) =>
      match parseRFC3339 s with
      | some ts => Time.sub now ts ≤ window
      | none => false
    | _ => false

/-- The cut to the newest `maxEvents` entries when `maxEvents > 0`. -/
def truncate (maxEvents : Int) (events : List EventMap) : List EventMap :=
  if 0 < maxEvents ∧ maxEvents < events.length then events.drop (events.length - maxEvents.toNat)
  else events

/-- The entries of a bucket that `Process` keeps at clock reading `now`. -/
def WindowManager.recentEvents (wm : WindowManager) (now : Time) (rule : CorrelationRule)
    (windowEvents : List EventMap) : List EventMap :=
  truncate wm.maxEvents (windowEvents.filter fun evt => withinWindow evt now rule.window)

def WindowMatch.ofRule (rule : CorrelationRule) (count : Nat) (events : List EventMap)
    (groupKey : String) : WindowMatch :=
  ⟨rule.id, rule.title, rule.severity, rule.tags, rule.description, count, events, groupKey, rule⟩

/-- One iteration of the rule loop of `Process`, at clock reading `now`. -/
def WindowManager.processRule (wm : WindowManager) (eventMap : EventMap) (act : Activation)
    (now : Time) (c : CompiledCorrelation) (db : DB) : Except String (Option WindowMatch) × DB :=
  if !c.program.matches act then (.ok none, db)
  else
    let groupKey := extractGroupKey eventMap c.rule.groupBy
    match db.storeWindowEvent c.rule.id groupKey eventMap with
    | (.error err, db) => (.error ("failed to store window event: " ++ err), db)
    | (.ok (), db) =>
      match db.getWindowEvents c.rule.id groupKey with
      | (.error err, db) => (.error ("failed to get window events: " ++ err), db)
      | (.ok windowEvents, db) =>
        let recent := wm.recentEvents now c.rule windowEvents
        let count := countEvents recent c.rule
        if c.rule.threshold ≤ count then
          match db.replaceWindowEvents c.rule.id groupKey [] with
          | (.error err, db) => (.error ("failed to clear window: " ++ err), db)
          | (.ok (), db) => (.ok (some (.ofRule c.rule count recent groupKey)), db)
        else
          match db.replaceWindowEvents c.rule.id groupKey recent with
          | (.error err, db) => (.error ("failed to persist window: " ++ err), db)
          | (.ok (), db) => (.ok none, db)

/-- The rule loop of `Process`; `clock i` is what `time.Now()` reads for the `i`-th rule. -/
def WindowManager.processLoop (wm : WindowManager) (eventMap : EventMap) (act : Activation) :
    (Nat → Time) → List CompiledCorrelation → DB → Except String (List WindowMatch) × DB
  | _, [], db => (.ok [], db)
  | clock, c :: cs, db =>
    match wm.processRule eventMap act (clock 0) c db with
    | (.error err, db) => (.error err, db)
    | (.ok m, db) =>
      match wm.processLoop eventMap act (fun i => clock (i + 1)) cs db with
      | (.error err, db) => (.error err, db)
      | (.ok ms, db) => (.ok (m.toList ++ ms), db)

/-- The map `Process` stores and groups by: `ToMap` enriched by `BuildActivation`. -/
def eventMapOf (msg : SantaMessage) : Except String EventMap :=
  (toMap msg).map (Events.buildActivation msg)

theorem eventMapOf_field? {msg : SantaMessage} {sample : EventMap}
    (h : eventMapOf msg = .ok sample) :
    ∃ ev, msg.event.toJson? = some ev ∧
      ∀ k ∉ metaKeys, sample.field? k = (decodeExecutionStringLists ev).field? k := by
  unfold eventMapOf toMap at h
  split at h
  · next et pt ev _ _ hev =>
    refine ⟨ev, hev, fun k hk => ?_⟩
    cases h
    have hm : ∀ k' ∉ metaKeys, EventMap.field? (fields [("machine_id", optStr msg.machineId),
        ("boot_session_uuid", optStr msg.bootSessionUuid), ("event_time", some et),
        ("processed_time", some pt)] ++ ev) k' = ev.field? k' := by
      intro k' hk'
      simp only [metaKeys, List.mem_cons, List.not_mem_nil, or_false, not_or] at hk'
      obtain ⟨h1, h2, -, h4, h5⟩ := hk'
      refine lookup_fields_append_of_ne _ ev ?_
      simp only [List.mem_cons, List.not_mem_nil, or_false]
      rintro _ (rfl | rfl | rfl | rfl) <;> exact Ne.symm ‹_›
    rw [Events.buildActivation_field? msg _ hk]
    by_cases hx : k = "execution"
    · subst hx
      unfold decodeExecutionStringLists
      rw [hm _ hk]
      split <;> simp only [EventMap.field?_put_self, hm _ hk]
    · rw [decodeExecutionStringLists_field?_ne _ hx, decodeExecutionStringLists_field?_ne _ hx,
        hm _ hk]
  · cases h

/-- `WindowManager.Process`; `clock rules.length` is the reading of `time.Since(lastGC)`. -/
def WindowManager.process (wm : WindowManager) (db : DB) (msg : SantaMessage)
    (rules : List CompiledCorrelation) (clock : Nat → Time) :
    Except String (List WindowMatch) × DB × WindowManager :=
  if rules.isEmpty then (.ok [], db, wm)
  else
    match eventMapOf msg with
    | .error err => (.error ("failed to convert message to map: " ++ err), db, wm)
    | .ok eventMap =>
      match wm.processLoop eventMap (buildActivation msg) clock rules db with
      | (.error err, db) => (.error err, db, wm)
      | (.ok ms, db) =>
        (.ok ms, db, if wm.gcInterval ≤ Time.sub (clock rules.length) wm.lastGC then
          { wm with lastGC := clock (rules.length + 1) } else wm)

/-- The matches a call returns: none when it fails. -/
def matchesOf : Except String (List WindowMatch) → List WindowMatch
  | .ok ms => ms
  | .error _ => []

end Santamon.Correlation
