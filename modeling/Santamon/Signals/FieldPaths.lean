import Santamon.Correlation.Firing
import Santamon.Baseline.Order
import Santamon.Signals.Generator

namespace Santamon.Rules

open Santamon.Events

/-- A field path written with the `event.` prefix. -/
def eventPath (p : String) : String := "event." ++ p

@[simp] theorem trimPrefix_eventPath (p : String) : trimPrefix (eventPath p) "event." = p := by
  simp [eventPath, trimPrefix]

theorem eventPath_ne_empty (p : String) : eventPath p ≠ "" := fun h => by
  have h' := congrArg String.length h
  have h6 : "event.".length = 6 := rfl
  have h0 : "".length = 0 := rfl
  simp only [eventPath, String.length_append, h6, h0] at h'
  omega

/-- The correlation with its `group_by` and `count_distinct` paths written with the prefix. -/
def CorrelationRule.withEventPrefix (r : CorrelationRule) : CorrelationRule :=
  { r with groupBy := r.groupBy.map eventPath
           countDistinct := if r.countDistinct = "" then "" else eventPath r.countDistinct }

@[simp] theorem CorrelationRule.withEventPrefix_id (r : CorrelationRule) :
    r.withEventPrefix.id = r.id := rfl

@[simp] theorem CorrelationRule.withEventPrefix_threshold (r : CorrelationRule) :
    r.withEventPrefix.threshold = r.threshold := rfl

/-- The rule with its `extra_context` paths written with the prefix. -/
def Rule.withEventPrefix (r : Rule) : Rule :=
  { r with extraContext := r.extraContext.map eventPath }

@[simp] theorem Rule.withEventPrefix_extraContext (r : Rule) :
    r.withEventPrefix.extraContext = r.extraContext.map eventPath := rfl

@[simp] theorem Rule.withEventPrefix_includeEvent (r : Rule) :
    r.withEventPrefix.includeEvent = r.includeEvent := rfl

@[simp] theorem Rule.withEventPrefix_description (r : Rule) :
    r.withEventPrefix.description = r.description := rfl

/-- The baseline with its `track` paths written with the prefix. -/
def BaselineRule.withEventPrefix (b : BaselineRule) : BaselineRule :=
  { b with track := b.track.map eventPath }

/-- A compiled rule with its configuration rewritten and the same program. -/
def Compiled.withRule {α β : Type} (f : α → β) (c : Compiled α) : Compiled β := ⟨f c.rule, c.program⟩

theorem isEmpty_map {α β : Type} (f : α → β) (l : List α) : (l.map f).isEmpty = l.isEmpty := by
  cases l <;> rfl

end Santamon.Rules

namespace Santamon.Correlation

open Santamon.Events Santamon.Rules Santamon.State

theorem joinFields_eventPath (m : EventMap) {fs : List String}
    (h : ∀ p ∈ fs, trimPrefix p "event." = p) : joinFields m (fs.map eventPath) = joinFields m fs := by
  simp only [joinFields, List.map_map]
  exact congrArg _ (List.map_congr_left fun p hp => by simp [h p hp])

theorem extractGroupKey_eventPath (m : EventMap) {fs : List String}
    (h : ∀ p ∈ fs, trimPrefix p "event." = p) :
    extractGroupKey m (fs.map eventPath) = extractGroupKey m fs := by
  simp only [extractGroupKey, List.map_eq_nil_iff, joinFields_eventPath m h]

theorem countEvents_withEventPrefix (xs : List EventMap) {r : CorrelationRule}
    (h : trimPrefix r.countDistinct "event." = r.countDistinct) :
    countEvents xs r.withEventPrefix = countEvents xs r := by
  unfold countEvents CorrelationRule.withEventPrefix
  by_cases hc : r.countDistinct = ""
  · simp [hc]
  · simp only [hc, if_false, ne_eq, eventPath_ne_empty, not_false_eq_true, if_true, distinctValues,
      trimPrefix_eventPath, h]

/-- The match a prefixed rule emits: the same, carrying its own rule. -/
def WindowMatch.withEventPrefix (m : WindowMatch) : WindowMatch :=
  { m with rule := m.rule.withEventPrefix }

variable {wm : WindowManager} {eventMap : EventMap} {act : Activation} {now : Time}

theorem processRule_withEventPrefix (c : CompiledCorrelation)
    (hg : ∀ p ∈ c.rule.groupBy, trimPrefix p "event." = p)
    (hc : trimPrefix c.rule.countDistinct "event." = c.rule.countDistinct) (db : DB) :
    wm.processRule eventMap act now (c.withRule CorrelationRule.withEventPrefix) db =
      ((wm.processRule eventMap act now c db).1.map (Option.map WindowMatch.withEventPrefix),
        (wm.processRule eventMap act now c db).2) := by
  have hk : extractGroupKey eventMap c.rule.withEventPrefix.groupBy =
      extractGroupKey eventMap c.rule.groupBy := extractGroupKey_eventPath eventMap hg
  have hn (xs : List EventMap) := countEvents_withEventPrefix xs hc
  have hr (xs : List EventMap) :
      wm.recentEvents now c.rule.withEventPrefix xs = wm.recentEvents now c.rule xs := rfl
  unfold WindowManager.processRule
  simp only [Compiled.withRule, CorrelationRule.withEventPrefix_id,
    CorrelationRule.withEventPrefix_threshold, hk, hn, hr]
  split
  · rfl
  rcases db.storeWindowEvent c.rule.id (extractGroupKey eventMap c.rule.groupBy) eventMap with
    ⟨_ | _, db₁⟩
  · rfl
  dsimp only
  rcases db₁.getWindowEvents c.rule.id (extractGroupKey eventMap c.rule.groupBy) with ⟨_ | ws, db₂⟩
  · rfl
  dsimp only
  split
  · rcases db₂.replaceWindowEvents c.rule.id (extractGroupKey eventMap c.rule.groupBy) [] with
      ⟨_ | _, _⟩ <;> rfl
  · rcases db₂.replaceWindowEvents c.rule.id (extractGroupKey eventMap c.rule.groupBy)
      (wm.recentEvents now c.rule ws) with ⟨_ | _, _⟩ <;> rfl

theorem matchesOf_map (f : WindowMatch → WindowMatch) (r : Except String (List WindowMatch)) :
    matchesOf (r.map (List.map f)) = (matchesOf r).map f := by
  cases r <;> rfl

theorem process_withEventPrefix (db : DB) (msg : SantaMessage) {rs : List CompiledCorrelation}
    (h : ∀ c ∈ rs, (∀ p ∈ c.rule.groupBy, trimPrefix p "event." = p) ∧
      trimPrefix c.rule.countDistinct "event." = c.rule.countDistinct)
    (clock : Nat → Time) :
    wm.process db msg (rs.map (Compiled.withRule CorrelationRule.withEventPrefix)) clock =
      ((wm.process db msg rs clock).1.map (List.map WindowMatch.withEventPrefix),
        (wm.process db msg rs clock).2.1, (wm.process db msg rs clock).2.2) := by
  unfold WindowManager.process
  rw [isEmpty_map, List.length_map]
  split
  · rfl
  cases he : eventMapOf msg with
  | error err => rfl
  | ok e =>
    dsimp only
    rw [processLoop_eq_ruleLoop, processLoop_eq_ruleLoop,
      ruleLoop_map_rules (fun t c db hc => processRule_withEventPrefix c (h c hc).1 (h c hc).2 db)]
    rcases ruleLoop (wm.processRule e (buildActivation msg)) clock rs db with ⟨_ | _, _⟩ <;> rfl

theorem trace_withEventPrefix {rs : List CompiledCorrelation}
    (h : ∀ c ∈ rs, (∀ p ∈ c.rule.groupBy, trimPrefix p "event." = p) ∧
      trimPrefix c.rule.countDistinct "event." = c.rule.countDistinct)
    (wm : WindowManager) (db : DB) (stream : List (SantaMessage × (Nat → Time))) :
    wm.trace (rs.map (Compiled.withRule CorrelationRule.withEventPrefix)) db stream =
      (wm.trace rs db stream).map fun x => (x.1.map WindowMatch.withEventPrefix, x.2) := by
  induction stream generalizing wm db with
  | nil => rfl
  | cons x rest ih =>
    obtain ⟨msg, clock⟩ := x
    simp only [WindowManager.trace, List.map_cons, process_withEventPrefix db msg h clock,
      matchesOf_map, ih]

end Santamon.Correlation

namespace Santamon.Baseline

open Santamon.Events Santamon.Rules Santamon.State Santamon.Correlation

theorem processRule_withEventPrefix (engine : Engine) (msg : SantaMessage) (act : Activation)
    (now : Time) (b : CompiledBaseline) (h : ∀ p ∈ b.rule.track, trimPrefix p "event." = p)
    (db : DB) :
    processRule engine msg act now (b.withRule BaselineRule.withEventPrefix) db =
      processRule engine msg act now b db := by
  have hp (m : EventMap) : extractPattern m b.rule.withEventPrefix.track =
      extractPattern m b.rule.track := joinFields_eventPath m h
  unfold processRule
  simp only [Compiled.withRule, hp]
  rfl

theorem process_withEventPrefix (engine : Engine) (db : DB) (msg : SantaMessage)
    {bs : List CompiledBaseline} (h : ∀ b ∈ bs, ∀ p ∈ b.rule.track, trimPrefix p "event." = p)
    (clock : Nat → Time) :
    process db msg (bs.map (Compiled.withRule BaselineRule.withEventPrefix)) engine clock =
      process db msg bs engine clock := by
  have hstep : ∀ t b d, b ∈ bs →
      processRule engine msg (buildActivation msg) t (b.withRule BaselineRule.withEventPrefix) d =
        ((processRule engine msg (buildActivation msg) t b d).1.map (Option.map id),
          (processRule engine msg (buildActivation msg) t b d).2) := fun t b d hb => by
    rw [processRule_withEventPrefix engine msg _ t b (h b hb) d]
    rcases processRule engine msg (buildActivation msg) t b d with ⟨_ | o, _⟩
    · rfl
    · cases o <;> rfl
  unfold process
  rw [isEmpty_map]
  split
  · rfl
  · rw [processLoop_eq_ruleLoop, processLoop_eq_ruleLoop, ruleLoop_map_rules hstep]
    rcases ruleLoop (processRule engine msg (buildActivation msg)) clock bs db with ⟨_ | ms, _⟩
    · rfl
    · simp [Except.map]

theorem run_withEventPrefix (engine : Engine) {bs : List CompiledBaseline}
    (h : ∀ b ∈ bs, ∀ p ∈ b.rule.track, trimPrefix p "event." = p) (db : DB)
    (stream : List (SantaMessage × (Nat → Time))) :
    run engine (bs.map (Compiled.withRule BaselineRule.withEventPrefix)) db stream =
      run engine bs db stream := by
  induction stream generalizing db with
  | nil => rfl
  | cons x rest ih =>
    obtain ⟨msg, clock⟩ := x
    simp only [run, process_withEventPrefix engine db msg h clock, ih]

end Santamon.Baseline

namespace Santamon.Signals

open Santamon.Events Santamon.Rules Santamon.State Santamon.Correlation Santamon.Baseline

theorem putExtraField_eventPath (em ctx : EventMap) {p : String} (hp : p ≠ "")
    (ht : trimPrefix p "event." = p) : putExtraField em ctx (eventPath p) = putExtraField em ctx p := by
  simp only [putExtraField, eventPath_ne_empty, hp, if_false, trimPrefix_eventPath, ht]

theorem fromRuleMatch_withEventPrefix (g : Generator) {m : Rules.Match}
    (h : ∀ p ∈ m.rule.extraContext, p ≠ "" ∧ trimPrefix p "event." = p) (now : Time) :
    g.fromRuleMatch { m with rule := m.rule.withEventPrefix } now = g.fromRuleMatch m now := by
  have hf (em ctx : EventMap) : (m.rule.extraContext.map eventPath).foldl (putExtraField em) ctx =
      m.rule.extraContext.foldl (putExtraField em) ctx := by
    rw [List.foldl_map]
    exact List.foldl_ext _ _ _ fun c p hp => putExtraField_eventPath em c (h p hp).1 (h p hp).2
  have ht : processTree g m.rule.withEventPrefix m.message = processTree g m.rule m.message := rfl
  simp only [Generator.fromRuleMatch, Rule.withEventPrefix_extraContext,
    Rule.withEventPrefix_includeEvent, Rule.withEventPrefix_description, isEmpty_map, hf, ht]

theorem event_prefix_optional {rs : List CompiledCorrelation}
    (hr : ∀ c ∈ rs, (∀ p ∈ c.rule.groupBy, trimPrefix p "event." = p) ∧
      trimPrefix c.rule.countDistinct "event." = c.rule.countDistinct)
    {bs : List CompiledBaseline} (hb : ∀ b ∈ bs, ∀ p ∈ b.rule.track, trimPrefix p "event." = p)
    {m : Rules.Match} (hx : ∀ p ∈ m.rule.extraContext, p ≠ "" ∧ trimPrefix p "event." = p)
    (wm : WindowManager) (engine : Engine) (g : Generator) (db : DB)
    (stream : List (SantaMessage × (Nat → Time))) (now : Time) :
    wm.trace (rs.map (Compiled.withRule CorrelationRule.withEventPrefix)) db stream =
        (wm.trace rs db stream).map (fun x => (x.1.map WindowMatch.withEventPrefix, x.2)) ∧
      Baseline.run engine (bs.map (Compiled.withRule BaselineRule.withEventPrefix)) db stream =
        Baseline.run engine bs db stream ∧
      g.fromRuleMatch { m with rule := m.rule.withEventPrefix } now = g.fromRuleMatch m now :=
  ⟨trace_withEventPrefix hr wm db stream, run_withEventPrefix engine hb db stream,
    fromRuleMatch_withEventPrefix g hx now⟩

/-- `pairRule "R1"` grouping by `kind` and counting distinct machine IDs. -/
def kindGroupRule : CompiledCorrelation :=
  { pairRule "R1" with
    rule := { (pairRule "R1").rule with groupBy := ["kind"], countDistinct := "machine_id" } }

/-- A match of a rule that names `kind` as extra context, on `epochMessage`. -/
def kindContextMatch : Rules.Match :=
  ⟨"R1", "kind", "low", [], epochMessage, 0, ⟨"R1", "kind", "", "true", "low", [], true, ["kind"],
    false, false⟩⟩

theorem event_prefix_optional_kind :
    (∀ c ∈ [kindGroupRule], (∀ p ∈ c.rule.groupBy, trimPrefix p "event." = p) ∧
      trimPrefix c.rule.countDistinct "event." = c.rule.countDistinct) ∧
    (∀ b ∈ [trackKind "B1"], ∀ p ∈ b.rule.track, trimPrefix p "event." = p) ∧
    (∀ p ∈ kindContextMatch.rule.extraContext, p ≠ "" ∧ trimPrefix p "event." = p) ∧
    (WindowManager.trace ([kindGroupRule].map (Compiled.withRule CorrelationRule.withEventPrefix))
        ⟨0, 0, 0⟩ DB.empty epochPair =
        (WindowManager.trace [kindGroupRule] ⟨0, 0, 0⟩ DB.empty epochPair).map
          (fun x => (x.1.map WindowMatch.withEventPrefix, x.2)) ∧
      Baseline.run idleEngine ([trackKind "B1"].map (Compiled.withRule BaselineRule.withEventPrefix))
        DB.empty epochPair = Baseline.run idleEngine [trackKind "B1"] DB.empty epochPair ∧
      (⟨"host", none⟩ : Generator).fromRuleMatch
          { kindContextMatch with rule := kindContextMatch.rule.withEventPrefix } 0 =
        (⟨"host", none⟩ : Generator).fromRuleMatch kindContextMatch 0) :=
  have hr : ∀ c ∈ [kindGroupRule], (∀ p ∈ c.rule.groupBy, trimPrefix p "event." = p) ∧
      trimPrefix c.rule.countDistinct "event." = c.rule.countDistinct := by decide
  have hb : ∀ b ∈ [trackKind "B1"], ∀ p ∈ b.rule.track, trimPrefix p "event." = p := by decide
  have hx : ∀ p ∈ kindContextMatch.rule.extraContext, p ≠ "" ∧ trimPrefix p "event." = p := by
    decide
  ⟨hr, hb, hx, event_prefix_optional hr hb hx ⟨0, 0, 0⟩ idleEngine ⟨"host", none⟩ DB.empty epochPair 0⟩

end Santamon.Signals
