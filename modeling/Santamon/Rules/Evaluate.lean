import Santamon.Rules.Load
import Santamon.Rules.Validate

namespace Santamon.Rules

open Santamon.Events

section Section

variable {α : Type} {env : CelEnv} {expr : α → String} {enabled : α → Bool}

theorem compileSection_congr {env' : CelEnv} (what : String) (id : α → String) {rs : List α}
    (h : ∀ r ∈ rs, enabled r = true → compileExpression env' (expr r) = compileExpression env (expr r))
    (acc : List (Compiled α)) :
    compileSection env' what id expr enabled rs acc = compileSection env what id expr enabled rs acc := by
  induction rs generalizing acc with
  | nil => rfl
  | cons r rs ih =>
    have ih' := ih fun r' hr' => h r' (List.mem_cons_of_mem _ hr')
    cases hr : enabled r
    · simp [compileSection, hr, ih']
    · simp [compileSection, hr, h r (List.mem_cons_self _ _) hr, ih']

theorem mem_compiledPrefix {rs : List α} {c : Compiled α} (hc : c ∈ compiledPrefix env expr enabled rs) :
    enabled c.rule = true ∧ compileExpression env (expr c.rule) = .ok c.program := by
  obtain ⟨r, hr, he⟩ := List.mem_filterMap.mp hc
  have hen := (List.mem_filter.mp ((List.takeWhile_sublist _).subset hr)).2
  cases hcomp : compileExpression env (expr r) with
  | error err => simp [hcomp, Except.toOption] at he
  | ok p =>
    simp only [hcomp, Except.toOption, Option.map_some', Option.some.injEq] at he
    subst he
    exact ⟨hen, hcomp⟩

theorem compiledPrefix_rules {rs : List α} (h : compilesAll env expr enabled rs = true) :
    (compiledPrefix env expr enabled rs).map (·.rule) = rs.filter enabled := by
  have hall : ∀ r ∈ rs.filter enabled, (compileExpression env (expr r)).toBool = true :=
    List.all_eq_true.mp h
  rw [compiledPrefix, List.takeWhile_eq_self_iff.mpr hall]
  generalize rs.filter enabled = l at hall ⊢
  induction l with
  | nil => rfl
  | cons r rs ih =>
    have hr := hall r (List.mem_cons_self _ _)
    cases hc : compileExpression env (expr r) with
    | error err => simp [hc, Except.toBool] at hr
    | ok p =>
      have ho : (Except.ok p : Except String Program).toOption = some p := rfl
      simp [hc, ho, ih fun r' hr' => hall r' (List.mem_cons_of_mem _ hr')]

end Section

/-- The `Match` `Evaluate` emits for rule `r` on message `msg`. -/
def Match.ofRule (r : Rule) (msg : SantaMessage) : Match :=
  ⟨r.id, r.title, r.severity, r.tags, msg, eventTime msg, r⟩

theorem evaluate_eq (e : Engine) (msg : SantaMessage) :
    e.evaluate msg = (e.rules.filter fun c => c.program.matches (buildActivation msg)).map
      fun c => Match.ofRule c.rule msg := by
  simp only [Engine.evaluate, Match.ofRule]
  induction e.rules with
  | nil => rfl
  | cons c cs ih => by_cases hc : c.program.matches (buildActivation msg) <;> simp [hc, ih]

theorem loadRules_env_congr (e : Engine) (cfg : RulesConfig) (env : CelEnv)
    (h₁ : ∀ r ∈ cfg.rules, r.enabled = true →
      compileExpression env r.expr = compileExpression e.env r.expr)
    (h₂ : ∀ r ∈ cfg.correlations, r.enabled = true →
      compileExpression env r.expr = compileExpression e.env r.expr)
    (h₃ : ∀ r ∈ cfg.baselines, r.enabled = true →
      compileExpression env r.expr = compileExpression e.env r.expr) :
    { e with env := env }.loadRules cfg = ((e.loadRules cfg).1, { (e.loadRules cfg).2 with env := env }) := by
  unfold Engine.loadRules
  simp only [compileSection_congr _ _ h₁, compileSection_congr _ _ h₂, compileSection_congr _ _ h₃]
  rcases compileSection e.env "rule" Rule.id Rule.expr Rule.enabled cfg.rules [] with ⟨_ | _, rs⟩
  · rfl
  rcases compileSection e.env "correlation" CorrelationRule.id CorrelationRule.expr
    CorrelationRule.enabled cfg.correlations [] with ⟨_ | _, cs⟩
  · rfl
  rfl

theorem evaluate_filterMap {env : CelEnv} {l : List Rule}
    (hall : ∀ r ∈ l, (compileExpression env r.expr).toBool = true) (msg : SantaMessage) :
    (((l.filterMap fun r => (compileExpression env r.expr).toOption.map (Compiled.mk r)).filter
        fun c => c.program.matches (buildActivation msg)).map fun c => Match.ofRule c.rule msg) =
      (l.filter fun r =>
        (compileExpression env r.expr).toOption.any (·.matches (buildActivation msg))).map
        fun r => Match.ofRule r msg := by
  induction l with
  | nil => rfl
  | cons r l ih =>
    have hr := hall r (List.mem_cons_self _ _)
    have ih' := ih fun r' hr' => hall r' (List.mem_cons_of_mem _ hr')
    cases hc : compileExpression env r.expr with
    | error err => simp [hc, Except.toBool] at hr
    | ok p =>
      have ho : (Except.ok p : Except String Program).toOption = some p := rfl
      by_cases hm : p.matches (buildActivation msg) <;> simp [hc, ho, hm, ih']

theorem load_then_evaluate (e : Engine) (cfg : RulesConfig) (h : (e.loadRules cfg).1 = .ok ()) :
    ((e.loadRules cfg).2.rules.map (·.rule) = cfg.rules.filter (·.enabled) ∧
      (e.loadRules cfg).2.correlations.map (·.rule) = cfg.correlations.filter (·.enabled) ∧
      (e.loadRules cfg).2.baselines.map (·.rule) = cfg.baselines.filter (·.enabled)) ∧
    ((∀ c ∈ (e.loadRules cfg).2.rules, compileExpression e.env c.rule.expr = .ok c.program) ∧
      (∀ c ∈ (e.loadRules cfg).2.correlations,
        compileExpression e.env c.rule.expr = .ok c.program) ∧
      ∀ c ∈ (e.loadRules cfg).2.baselines, compileExpression e.env c.rule.expr = .ok c.program) ∧
    (∀ env : CelEnv,
      (∀ r ∈ cfg.rules, r.enabled = true → compileExpression env r.expr = compileExpression e.env r.expr) →
      (∀ r ∈ cfg.correlations, r.enabled = true →
        compileExpression env r.expr = compileExpression e.env r.expr) →
      (∀ r ∈ cfg.baselines, r.enabled = true →
        compileExpression env r.expr = compileExpression e.env r.expr) →
      { e with env := env }.loadRules cfg = ((e.loadRules cfg).1, { (e.loadRules cfg).2 with env := env })) ∧
    ∀ msg, (e.loadRules cfg).2.evaluate msg =
      ((cfg.rules.filter (·.enabled)).filter fun r =>
        (compileExpression e.env r.expr).toOption.any (·.matches (buildActivation msg))).map
        fun r => Match.ofRule r msg := by
  obtain ⟨hE, hB⟩ := Engine.loadRules_eq e cfg
  rw [h] at hB
  obtain ⟨⟨hr, hc⟩, hb⟩ : (compilesAll e.env Rule.expr Rule.enabled cfg.rules = true ∧
      compilesAll e.env CorrelationRule.expr CorrelationRule.enabled cfg.correlations = true) ∧
      compilesAll e.env BaselineRule.expr BaselineRule.enabled cfg.baselines = true := by
    simpa [Except.toBool] using hB.symm
  rw [hr, hc] at hE
  simp only [if_true, Bool.and_self] at hE
  rw [hE]
  refine ⟨⟨compiledPrefix_rules hr, compiledPrefix_rules hc, compiledPrefix_rules hb⟩,
    ⟨fun c h => (mem_compiledPrefix h).2, fun c h => (mem_compiledPrefix h).2,
      fun c h => (mem_compiledPrefix h).2⟩,
    fun env h₁ h₂ h₃ => by rw [loadRules_env_congr e cfg env h₁ h₂ h₃, hE], fun msg => ?_⟩
  have hall : ∀ r ∈ cfg.rules.filter (·.enabled), (compileExpression e.env r.expr).toBool = true :=
    List.all_eq_true.mp hr
  rw [evaluate_eq, compiledPrefix, List.takeWhile_eq_self_iff.mpr hall]
  exact evaluate_filterMap hall msg

/-- An environment in which every expression compiles to a filter that always holds. -/
def acceptAll : CelEnv := ⟨fun s => .ok ⟨s, .bool⟩, fun _ => .ok ⟨fun _ => .ok (.bool true)⟩⟩

def acceptEngine : Engine := ⟨[], [], [], acceptAll, 0⟩

/-- `alwaysRule`, then a disabled copy of it under ID `R2`. -/
def mixedConfig : RulesConfig := ⟨[alwaysRule, { alwaysRule with id := "R2", enabled := false }], [], []⟩

theorem load_then_evaluate_mixed :
    (acceptEngine.loadRules mixedConfig).1 = .ok () ∧
    ((acceptEngine.loadRules mixedConfig).2.rules.map (·.rule) = mixedConfig.rules.filter (·.enabled) ∧
      (acceptEngine.loadRules mixedConfig).2.correlations.map (·.rule) =
        mixedConfig.correlations.filter (·.enabled) ∧
      (acceptEngine.loadRules mixedConfig).2.baselines.map (·.rule) =
        mixedConfig.baselines.filter (·.enabled)) ∧
    ((∀ c ∈ (acceptEngine.loadRules mixedConfig).2.rules,
        compileExpression acceptEngine.env c.rule.expr = .ok c.program) ∧
      (∀ c ∈ (acceptEngine.loadRules mixedConfig).2.correlations,
        compileExpression acceptEngine.env c.rule.expr = .ok c.program) ∧
      ∀ c ∈ (acceptEngine.loadRules mixedConfig).2.baselines,
        compileExpression acceptEngine.env c.rule.expr = .ok c.program) ∧
    (∀ env : CelEnv,
      (∀ r ∈ mixedConfig.rules, r.enabled = true →
        compileExpression env r.expr = compileExpression acceptEngine.env r.expr) →
      (∀ r ∈ mixedConfig.correlations, r.enabled = true →
        compileExpression env r.expr = compileExpression acceptEngine.env r.expr) →
      (∀ r ∈ mixedConfig.baselines, r.enabled = true →
        compileExpression env r.expr = compileExpression acceptEngine.env r.expr) →
      { acceptEngine with env := env }.loadRules mixedConfig =
        ((acceptEngine.loadRules mixedConfig).1,
          { (acceptEngine.loadRules mixedConfig).2 with env := env })) ∧
    ∀ msg, (acceptEngine.loadRules mixedConfig).2.evaluate msg =
      ((mixedConfig.rules.filter (·.enabled)).filter fun r =>
        (compileExpression acceptEngine.env r.expr).toOption.any
          (·.matches (buildActivation msg))).map fun r => Match.ofRule r msg :=
  ⟨rfl, load_then_evaluate acceptEngine mixedConfig rfl⟩

example : ((acceptEngine.loadRules mixedConfig).2.rules.map (·.rule.id)) = ["R1"] := rfl

theorem compiledPrefix_sublist {α : Type} (env : CelEnv) (expr : α → String) (enabled : α → Bool)
    (rs : List α) : ((compiledPrefix env expr enabled rs).map (·.rule)).Sublist rs := by
  have hl : ((rs.filter enabled).takeWhile fun r => (compileExpression env (expr r)).toBool).Sublist
      rs := (List.takeWhile_sublist _).trans (List.filter_sublist rs)
  refine List.Sublist.trans ?_ hl
  rw [compiledPrefix]
  generalize (rs.filter enabled).takeWhile _ = l
  induction l with
  | nil => exact List.Sublist.slnil
  | cons r l ih =>
    cases hc : compileExpression env (expr r) with
    | error err =>
      have ho : (Except.error err : Except String Program).toOption = none := rfl
      simpa [hc, ho] using ih.cons r
    | ok p =>
      have ho : (Except.ok p : Except String Program).toOption = some p := rfl
      simpa [hc, ho] using ih.cons₂ r

theorem loadRules_ids_nodup (e : Engine) {cfg : RulesConfig} (h : cfg.validate = .ok ()) :
    ((e.loadRules cfg).2.correlations.map (·.rule.id)).Nodup ∧
      ((e.loadRules cfg).2.baselines.map (·.rule.id)).Nodup := by
  have hids := RulesConfig.ids_nodup h
  simp only [RulesConfig.ids, List.nodup_append] at hids
  have hs {α : Type} (env : CelEnv) (expr : α → String) (enabled : α → Bool) (id : α → String)
      (rs : List α) (hn : (rs.map id).Nodup) (b : Bool) :
      ((if b then compiledPrefix env expr enabled rs else []).map (id ·.rule)).Nodup := by
    split
    · have hm := hn.sublist ((compiledPrefix_sublist env expr enabled rs).map id)
      rwa [List.map_map] at hm
    · exact List.nodup_nil
  rw [(Engine.loadRules_eq e cfg).1]
  exact ⟨hs _ _ _ _ _ hids.1.2.1 _, hs _ _ _ _ _ hids.2.1 _⟩

/-- Two correlations with a one-hour window and threshold 2, under IDs `C1` and `C2`. -/
def pairConfig : RulesConfig :=
  ⟨[], [⟨"C1", "pair", "", "true", 3600000000000, [], "", 2, "low", [], true⟩,
    ⟨"C2", "pair", "", "true", 3600000000000, [], "", 2, "low", [], true⟩], []⟩

theorem loadRules_ids_nodup_pair :
    pairConfig.validate = .ok () ∧
      ((acceptEngine.loadRules pairConfig).2.correlations.map (·.rule.id)).Nodup ∧
      ((acceptEngine.loadRules pairConfig).2.baselines.map (·.rule.id)).Nodup :=
  have h : pairConfig.validate = .ok () := rfl
  ⟨h, loadRules_ids_nodup acceptEngine h⟩

end Santamon.Rules
