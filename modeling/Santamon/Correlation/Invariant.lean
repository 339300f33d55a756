import Santamon.Correlation.Step

namespace Santamon.Correlation

open Santamon.Events Santamon.Rules Santamon.State

variable {wm : WindowManager} {now : Time} {rule : CorrelationRule}

theorem recentEvents_sublist (xs : List EventMap) : (wm.recentEvents now rule xs).Sublist xs :=
  (truncate_sublist _ _).trans (List.filter_sublist _)

theorem recentEvents_within {xs : List EventMap} {x : EventMap}
    (hx : x ∈ wm.recentEvents now rule xs) : withinWindow x now rule.window = true :=
  (List.mem_filter.mp ((truncate_sublist _ _).subset hx)).2

theorem recentEvents_getLast {xs : List EventMap} {e : EventMap}
    (he : withinWindow e now rule.window = true) :
    (wm.recentEvents now rule (xs ++ [e])).getLast? = some e := by
  simp only [WindowManager.recentEvents, List.filter_append, List.filter_singleton, he, cond_true]
  exact truncate_append_getLast _ _ _

theorem recentEvents_sublist_of_not_within {xs : List EventMap} {e : EventMap}
    (he : withinWindow e now rule.window = false) :
    (wm.recentEvents now rule (xs ++ [e])).Sublist xs := by
  simp only [WindowManager.recentEvents, List.filter_append, List.filter_singleton, he, cond_false,
    List.append_nil]
  exact (truncate_sublist _ _).trans (List.filter_sublist _)

/-- Every bucket of a rule holds at most `maxEvents` entries and counts below its threshold. -/
def AtRest (rules : List CompiledCorrelation) (maxEvents : Int) (db : DB) : Prop :=
  ∀ c ∈ rules, ∀ g, (0 < maxEvents → ((db.windows c.rule.id g).length : Int) ≤ maxEvents) ∧
    (countEvents (db.windows c.rule.id g) c.rule : Int) < c.rule.threshold

/-- A match that rule `c` fires at clock reading `now` for the stored event `e`. -/
structure FiredBy (c : CompiledCorrelation) (now : Time) (e : EventMap) (m : WindowMatch) : Prop where
  rule : m.rule = c.rule
  threshold : c.rule.threshold ≤ m.count
  within : ∀ x ∈ m.events, withinWindow x now c.rule.window = true
  last : m.events.getLast? = some e

/-- The stores reached from the empty one by fault-free `Process` calls over `rules`. -/
inductive Reachable (rules : List CompiledCorrelation) (M : Int) : DB → Prop
  | empty : Reachable rules M DB.empty
  | process {db : DB} (wm : WindowManager) (msg : SantaMessage) (rs : List CompiledCorrelation)
      (clock : Nat → Time) : Reachable rules M db → wm.maxEvents = M → (∀ c ∈ rs, c ∈ rules) →
      Reachable rules M (wm.process db msg rs clock).2.1

/-- A correlation rule with a one-hour window and threshold 2 that always holds. -/
def pairRule (id : String) : CompiledCorrelation :=
  ⟨⟨id, "pair " ++ id, "", "true", 3600000000000, [], "", 2, "low", [], true⟩,
    ⟨fun _ => .ok (.bool true)⟩⟩

/-- A message with only `event_time` set, at the epoch. -/
def epochMessage : SantaMessage := ⟨none, none, some ⟨0, 0⟩, none, .unset⟩

section Rules

variable {rules : List CompiledCorrelation} (hd : (rules.map (·.rule.id)).Nodup)
  (ht : ∀ c ∈ rules, 0 < c.rule.threshold)

include hd in
theorem eq_of_id_eq {c c' : CompiledCorrelation} (hc : c ∈ rules) (hc' : c' ∈ rules)
    (h : c'.rule.id = c.rule.id) : c' = c :=
  List.inj_on_of_nodup_map hd hc' hc h

include hd ht in
theorem processRule_atRest {eventMap : EventMap} {act : Activation} {c : CompiledCorrelation}
    {db : DB} (hc : c ∈ rules) (hi : AtRest rules wm.maxEvents db) (hf : db.faults = []) :
    AtRest rules wm.maxEvents (wm.processRule eventMap act now c db).2 ∧
      ∀ m, (wm.processRule eventMap act now c db).1 = .ok (some m) → FiredBy c now eventMap m := by
  cases hm : c.program.matches act
  · rw [processRule_of_not_matches hm]; exact ⟨hi, by simp⟩
  rw [processRule_ok hf hm]
  dsimp only
  set g := extractGroupKey eventMap c.rule.groupBy
  set recent := wm.recentEvents now c.rule (db.windows c.rule.id g ++ [eventMap])
  have keep (xs : List EventMap) (hx : 0 < wm.maxEvents → (xs.length : Int) ≤ wm.maxEvents)
      (hc' : (countEvents xs c.rule : Int) < c.rule.threshold) :
      AtRest rules wm.maxEvents (db.setWindow c.rule.id g xs) := by
    intro c' hc'' g'
    by_cases he : c'.rule.id = c.rule.id ∧ g' = g
    · obtain rfl := eq_of_id_eq hd hc hc'' he.1
      rw [he.1, he.2, DB.setWindow_same]; exact ⟨hx, hc'⟩
    · rw [DB.setWindow_other _ _ he]; exact hi c' hc'' g'
  split
  · rename_i hfire
    refine ⟨keep [] (fun h => by simpa using h.le) (by simpa using ht c hc), ?_⟩
    rintro m ⟨⟩
    cases hw : withinWindow eventMap now c.rule.window
    · have hle : countEvents recent c.rule ≤ countEvents (db.windows c.rule.id g) c.rule :=
        countEvents_sublist (recentEvents_sublist_of_not_within hw) c.rule
      have := (hi c hc g).2
      omega
    · exact ⟨rfl, hfire, fun x hx => recentEvents_within hx, recentEvents_getLast hw⟩
  · rename_i hfire
    refine ⟨keep recent (fun hM => truncate_length_le hM _) (by omega), by simp⟩

include hd ht in
theorem reachable_atRest {M : Int} {db : DB} (h : Reachable rules M db) :
    db.faults = [] ∧ AtRest rules M db := by
  induction h with
  | empty =>
    exact ⟨rfl, fun c hc g => ⟨fun h => by simpa [DB.empty] using h.le, by simpa [DB.empty] using ht c hc⟩⟩
  | process wm msg rs clock _ hM hrs ih =>
    subst hM
    obtain ⟨hf, hp, -⟩ := process_preserves (fun _ _ _ _ => True) clock
      (fun _ c _ _ hc _ hp hf => ⟨(processRule_atRest hd ht (hrs c hc) hp hf).1, fun _ _ => trivial⟩)
      ih.1 ih.2
    exact ⟨hf, hp⟩

include hd ht in
theorem window_at_rest {M : Int} {db : DB} (h : Reachable rules M db) :
    AtRest rules M db ∧
      ∀ (wm : WindowManager) (msg : SantaMessage) (rs : List CompiledCorrelation)
        (clock : Nat → Time) (e : EventMap), wm.maxEvents = M → (∀ c ∈ rs, c ∈ rules) →
        eventMapOf msg = .ok e → ∀ m ∈ matchesOf (wm.process db msg rs clock).1,
          ∃ i c, rs.get? i = some c ∧ FiredBy c (clock i) e m := by
  obtain ⟨hf, hi⟩ := reachable_atRest hd ht h
  refine ⟨hi, fun wm msg rs clock e hM hrs he => ?_⟩
  subst hM
  exact (process_preserves (fun now c e m => FiredBy c now e m) clock
    (fun _ c _ _ hc _ hp hf => processRule_atRest hd ht (hrs c hc) hp hf) hf hi).2.2 e he

end Rules

/-- The store after `pairRule "R1"` has seen one epoch message: its bucket holds one entry. -/
def afterOneEpoch : DB :=
  (WindowManager.process ⟨0, 0, 0⟩ DB.empty epochMessage [pairRule "R1"] fun _ => 0).2.1

theorem window_at_rest_afterOneEpoch :
    (afterOneEpoch.windows "R1" "_global").length = 1 ∧ ([pairRule "R1"].map (·.rule.id)).Nodup ∧
      (∀ c ∈ [pairRule "R1"], 0 < c.rule.threshold) ∧ Reachable [pairRule "R1"] 0 afterOneEpoch ∧
      (AtRest [pairRule "R1"] 0 afterOneEpoch ∧
        ∀ (wm : WindowManager) (msg : SantaMessage) (rs : List CompiledCorrelation)
          (clock : Nat → Time) (e : EventMap), wm.maxEvents = 0 → (∀ c ∈ rs, c ∈ [pairRule "R1"]) →
          eventMapOf msg = .ok e → ∀ m ∈ matchesOf (wm.process afterOneEpoch msg rs clock).1,
            ∃ i c, rs.get? i = some c ∧ FiredBy c (clock i) e m) := by
  have hd : ([pairRule "R1"].map (·.rule.id)).Nodup := by decide
  have ht : ∀ c ∈ [pairRule "R1"], 0 < c.rule.threshold := by simp [pairRule]
  have hr : Reachable [pairRule "R1"] 0 afterOneEpoch :=
    .process ⟨0, 0, 0⟩ epochMessage _ _ .empty rfl fun _ h => h
  exact ⟨by decide, hd, ht, hr, window_at_rest hd ht hr⟩

/-- A store whose `pairRule "R1"` bucket holds one entry, where the fourth storage operation fails. -/
def oneStored : DB :=
  { DB.empty.setWindow "R1" "_global" [[("event_time", .time 0)]] with
    faults := [false, false, false, true] }

theorem process_error_drops_fired_window :
    (oneStored.windows "R1" "_global").length = 1 ∧
      (matchesOf (WindowManager.process ⟨0, 0, 0⟩ oneStored epochMessage
        [pairRule "R1", pairRule "R2"] fun _ => 0).1).isEmpty ∧
      ((WindowManager.process ⟨0, 0, 0⟩ oneStored epochMessage
        [pairRule "R1", pairRule "R2"] fun _ => 0).2.1.windows "R1" "_global").isEmpty := by
  decide

end Santamon.Correlation
