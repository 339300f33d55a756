import Santamon.Correlation.Firing
import Santamon.Events.Parse
import Santamon.Rules.Validate

namespace Santamon.Correlation

open Santamon.Events Santamon.Rules Santamon.State

theorem toMap_event_time {msg : SantaMessage} {m : EventMap} (h : toMap msg = .ok m) :
    ∃ et, optTimestamp msg.eventTime = some et ∧ m.field? "event_time" = some et := by
  unfold toMap at h
  split at h
  · next et pt ev het _ _ =>
    cases h
    refine ⟨et, het, ?_⟩
    rw [decodeExecutionStringLists_field?_ne _ (by decide)]
    cases msg.machineId <;> cases msg.bootSessionUuid <;> simp [EventMap.field?, optStr, List.lookup_cons]
  · cases h

theorem buildActivation_event_time_none (msg : SantaMessage) (m : EventMap)
    (ht : msg.eventTime = none) :
    (Events.buildActivation msg m).field? "event_time" = m.field? "event_time" := by
  unfold Events.buildActivation
  rw [ht]
  cases msg.processedTime <;> simp only [EventMap.field?_put_ne _ _ (by decide : "event_time" ≠ "kind"),
    EventMap.field?_put_ne _ _ (by decide : "event_time" ≠ "boot_session_uuid"),
    EventMap.field?_put_ne _ _ (by decide : "event_time" ≠ "machine_id"),
    EventMap.field?_put_ne _ _ (by decide : "event_time" ≠ "processed_time")]

theorem withinWindow_toMap {msg : SantaMessage} {m : EventMap} (h : toMap msg = .ok m)
    (now : Time) (window : Duration) :
    withinWindow m now window = withinWindow (Events.buildActivation msg m) now window := by
  obtain ⟨et, het, hm⟩ := toMap_event_time h
  unfold withinWindow
  split
  · rfl
  cases hts : msg.eventTime with
  | none => rw [buildActivation_event_time_none msg m hts]
  | some ts =>
    rw [hts] at het
    simp only [optTimestamp, Option.map_eq_some'] at het
    obtain ⟨s, hs, rfl⟩ := het
    rw [hm, Events.buildActivation_event_time msg m hts]
    simp only [parseRFC3339_toJson? hs]

/-- The epoch message's `ToMap` map, whose `event_time` is the text `1970-01-01T00:00:00Z`. -/
def epochToMap : EventMap := (toMap epochMessage).toOption.getD []

theorem withinWindow_toMap_epoch :
    toMap epochMessage = .ok epochToMap ∧
      withinWindow epochToMap 0 3600000000000 =
        withinWindow (Events.buildActivation epochMessage epochToMap) 0 3600000000000 :=
  have h : toMap epochMessage = .ok epochToMap := rfl
  ⟨h, withinWindow_toMap h 0 3600000000000⟩

theorem eventMapOf_event_time_none {msg : SantaMessage} {e : EventMap}
    (he : eventMapOf msg = .ok e) (ht : msg.eventTime = none) :
    e.field? "event_time" = some .null := by
  unfold eventMapOf at he
  cases hm : toMap msg with
  | error err => rw [hm] at he; cases he
  | ok m =>
    rw [hm] at he; cases he
    obtain ⟨et, het, hf⟩ := toMap_event_time hm
    rw [ht] at het
    rw [buildActivation_event_time_none msg m ht, hf, ← het]
    rfl

theorem Time.sub_nonneg {t u : Time} (h : u ≤ t) : 0 ≤ Time.sub t u :=
  le_max_of_le_right (le_min (by decide) (Int.sub_nonneg_of_le h))

theorem withinWindow_eventMapOf_of_late {msg : SantaMessage} {e : EventMap}
    (he : eventMapOf msg = .ok e) {now : Time} {W : Duration} (hW : W < 0)
    (hlate : eventTime msg ≤ now) : withinWindow e now W = false := by
  unfold withinWindow
  rw [if_neg hW.ne]
  cases ht : msg.eventTime with
  | none => rw [eventMapOf_event_time_none he ht]
  | some ts =>
    rw [eventMapOf_event_time he ht]
    simp only [eventTime, ht, Option.map_some', Option.getD_some] at hlate
    exact decide_eq_false (not_le.mpr (hW.trans_le (Time.sub_nonneg hlate)))

theorem bucketStep_empty_of_not_within (wm : WindowManager) {now : Time} {rule : CorrelationRule}
    {e : EventMap} (he : withinWindow e now rule.window = false) (hT : 0 < rule.threshold) :
    bucketStep wm now rule [] e = (none, []) := by
  have hr : wm.recentEvents now rule ([] ++ [e]) = [] := by
    simp [WindowManager.recentEvents, he, truncate]
  have hc : ¬rule.threshold ≤ countEvents [] rule := by
    have := countEvents_le_length [] rule
    simp only [List.length_nil, Nat.le_zero] at this
    rw [this]
    exact not_le.mpr hT
  simp only [bucketStep, hr, if_neg hc]

section Run

variable {pre post : List CompiledCorrelation} {r : CompiledCorrelation}
  (hd : ((pre ++ r :: post).map (·.rule.id)).Nodup) {g : String}

include hd in
theorem negative_window_never_fires (hv : r.rule.validate = .ok ()) (hW : r.rule.window < 0)
    (wm : WindowManager) {db : DB} (hf : db.faults = []) (hb : db.windows r.rule.id g = [])
    (stream : List (SantaMessage × (Nat → Time)))
    (hlate : ∀ x ∈ touching r g stream, eventTime x.1 ≤ x.2 pre.length) :
    (wm.trace (pre ++ r :: post) db stream).map
        (fun call => bucketOutcome r.rule.id g call.1 call.2) =
      stream.map fun _ => (none, []) := by
  have hT := (CorrelationRule.window_threshold_of_validate hv).2
  induction stream generalizing wm db with
  | nil => rfl
  | cons x rest ih =>
    obtain ⟨msg, clock⟩ := x
    obtain ⟨hf', hout⟩ := process_bucketOutcome hd wm hf msg clock g
    -- the call's outcome for the bucket is `(none, [])`
    have hnone : bucketOutcome r.rule.id g (matchesOf (wm.process db msg (pre ++ r :: post) clock).1)
        (wm.process db msg (pre ++ r :: post) clock).2.1 = (none, []) := by
      rw [hout, hb]
      cases ht : touchedMap r g msg with
      | none => rfl
      | some e =>
        have hx : (msg, clock) ∈ touching r g ((msg, clock) :: rest) :=
          List.mem_filter.mpr ⟨List.mem_cons_self _ _, by simp [ht]⟩
        exact bucketStep_empty_of_not_within wm
          (withinWindow_eventMapOf_of_late (touchedMap_eq_some ht) hW (hlate _ hx)) hT
    simp only [WindowManager.trace, List.map_cons, hnone]
    exact congrArg _ (ih _ hf' (congrArg Prod.snd hnone) fun y hy =>
      hlate y (((List.sublist_cons_self _ _).filter _).subset hy))

end Run

/-- `pairRule "R1"` with its one-hour window negated. -/
def lateRule : CompiledCorrelation :=
  { pairRule "R1" with rule := { (pairRule "R1").rule with window := -3600000000000 } }

theorem negative_window_never_fires_epochPair :
    ([lateRule].map (·.rule.id)).Nodup ∧ lateRule.rule.validate = .ok () ∧
      lateRule.rule.window < 0 ∧ DB.empty.faults = [] ∧
      DB.empty.windows lateRule.rule.id "_global" = [] ∧
      (∀ x ∈ touching lateRule "_global" epochPair,
        eventTime x.1 ≤ x.2 ([] : List CompiledCorrelation).length) ∧
      (WindowManager.trace [lateRule] ⟨0, 0, 0⟩ DB.empty epochPair).map
          (fun call => bucketOutcome lateRule.rule.id "_global" call.1 call.2) =
        epochPair.map fun _ => (none, []) :=
  ⟨by decide, rfl, by decide, rfl, rfl, by decide,
    @negative_window_never_fires [] [] lateRule (by decide) "_global" rfl (by decide) ⟨0, 0, 0⟩
      DB.empty rfl rfl epochPair (by decide)⟩

end Santamon.Correlation
