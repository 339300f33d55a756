import Santamon.Rules.Engine

namespace Santamon.Rules

open Santamon.Events

variable {α : Type} (env : CelEnv) (expr : α → String) (enabled : α → Bool)

/-- The enabled entries of a section before the first one that fails to compile. -/
def compiledPrefix (rs : List α) : List (Compiled α) :=
  ((rs.filter enabled).takeWhile fun r => (compileExpression env (expr r)).toBool).filterMap
    fun r => (compileExpression env (expr r)).toOption.map (Compiled.mk r)

/-- Every enabled entry of a section compiles. -/
def compilesAll (rs : List α) : Bool :=
  (rs.filter enabled).all fun r => (compileExpression env (expr r)).toBool

section Cons

variable {env expr enabled} {r : α} (rs : List α)

theorem compiledPrefix_of_disabled (hr : enabled r = false) :
    compiledPrefix env expr enabled (r :: rs) = compiledPrefix env expr enabled rs ∧
      compilesAll env expr enabled (r :: rs) = compilesAll env expr enabled rs := by
  simp [compiledPrefix, compilesAll, hr]

theorem compiledPrefix_of_error (hr : enabled r = true) {err : String}
    (hc : compileExpression env (expr r) = .error err) :
    compiledPrefix env expr enabled (r :: rs) = [] ∧ compilesAll env expr enabled (r :: rs) = false := by
  simp [compiledPrefix, compilesAll, hr, hc, Except.toBool]

theorem compiledPrefix_of_ok (hr : enabled r = true) {p : Program}
    (hc : compileExpression env (expr r) = .ok p) :
    compiledPrefix env expr enabled (r :: rs) = ⟨r, p⟩ :: compiledPrefix env expr enabled rs ∧
      compilesAll env expr enabled (r :: rs) = compilesAll env expr enabled rs := by
  simp [compiledPrefix, compilesAll, hr, hc, Except.toBool, Except.toOption]

end Cons

theorem compileSection_spec (what : String) (id : α → String) (rs : List α)
    (acc : List (Compiled α)) :
    (compileSection env what id expr enabled rs acc).2 = acc ++ compiledPrefix env expr enabled rs ∧
      (compileSection env what id expr enabled rs acc).1.toBool = compilesAll env expr enabled rs := by
  induction rs generalizing acc with
  | nil => simp [compileSection, compiledPrefix, compilesAll, Except.toBool]
  | cons r rs ih =>
    cases hr : enabled r
    · obtain ⟨h₁, h₂⟩ := compiledPrefix_of_disabled rs hr
      rw [h₁, h₂]
      simpa [compileSection, hr] using ih acc
    · cases hc : compileExpression env (expr r) with
      | error err =>
        obtain ⟨h₁, h₂⟩ := compiledPrefix_of_error rs hr hc
        simp [compileSection, hr, hc, h₁, h₂, Except.toBool]
      | ok p =>
        obtain ⟨h₁, h₂⟩ := compiledPrefix_of_ok rs hr hc
        rw [h₁, h₂]
        obtain ⟨h₃, h₄⟩ := ih (acc ++ [⟨r, p⟩])
        rw [List.append_assoc, List.singleton_append] at h₃
        simp [compileSection, hr, hc, h₃, h₄]

theorem Engine.loadRules_eq (e : Engine) (cfg : RulesConfig) :
    (e.loadRules cfg).2 = { e with
      rules := compiledPrefix e.env Rule.expr Rule.enabled cfg.rules
      correlations :=
        if compilesAll e.env Rule.expr Rule.enabled cfg.rules then
          compiledPrefix e.env CorrelationRule.expr CorrelationRule.enabled cfg.correlations
        else []
      baselines :=
        if compilesAll e.env Rule.expr Rule.enabled cfg.rules &&
            compilesAll e.env CorrelationRule.expr CorrelationRule.enabled cfg.correlations then
          compiledPrefix e.env BaselineRule.expr BaselineRule.enabled cfg.baselines
        else [] } ∧
      (e.loadRules cfg).1.toBool =
        (compilesAll e.env Rule.expr Rule.enabled cfg.rules &&
          compilesAll e.env CorrelationRule.expr CorrelationRule.enabled cfg.correlations &&
          compilesAll e.env BaselineRule.expr BaselineRule.enabled cfg.baselines) := by
  obtain ⟨hr, hr'⟩ :=
    compileSection_spec e.env Rule.expr Rule.enabled "rule" Rule.id cfg.rules []
  obtain ⟨hc, hc'⟩ := compileSection_spec e.env CorrelationRule.expr CorrelationRule.enabled
    "correlation" CorrelationRule.id cfg.correlations []
  obtain ⟨hb, hb'⟩ := compileSection_spec e.env BaselineRule.expr BaselineRule.enabled
    "baseline" BaselineRule.id cfg.baselines []
  unfold Engine.loadRules
  rcases h₁ : compileSection e.env "rule" Rule.id Rule.expr Rule.enabled cfg.rules [] with
    ⟨_ | _, rs⟩ <;> rw [h₁] at hr hr' <;> simp only [List.nil_append] at hr <;> subst hr <;>
    simp only [← hr', Except.toBool, Bool.false_and, Bool.true_and, if_false, if_true]
  · simp
  rcases h₂ : compileSection e.env "correlation" CorrelationRule.id CorrelationRule.expr
      CorrelationRule.enabled cfg.correlations [] with ⟨_ | _, cs⟩ <;> rw [h₂] at hc hc' <;>
    simp only [List.nil_append] at hc <;> subst hc <;>
    simp only [← hc', Except.toBool, Bool.false_and, Bool.true_and, if_false, if_true]
  · simp
  rcases h₃ : compileSection e.env "baseline" BaselineRule.id BaselineRule.expr
      BaselineRule.enabled cfg.baselines [] with ⟨r, bs⟩
  rw [h₃] at hb hb'
  simp only [List.nil_append] at hb
  subst hb
  exact ⟨rfl, hb'⟩

theorem loadRules_installs_prefix (e : Engine) (cfg : RulesConfig) :
    (e.loadRules cfg).2 = { e with
      rules := compiledPrefix e.env Rule.expr Rule.enabled cfg.rules
      correlations :=
        if compilesAll e.env Rule.expr Rule.enabled cfg.rules then
          compiledPrefix e.env CorrelationRule.expr CorrelationRule.enabled cfg.correlations
        else []
      baselines :=
        if compilesAll e.env Rule.expr Rule.enabled cfg.rules &&
            compilesAll e.env CorrelationRule.expr CorrelationRule.enabled cfg.correlations then
          compiledPrefix e.env BaselineRule.expr BaselineRule.enabled cfg.baselines
        else [] } ∧
      (e.loadRules cfg).1.toBool =
        (compilesAll e.env Rule.expr Rule.enabled cfg.rules &&
          compilesAll e.env CorrelationRule.expr CorrelationRule.enabled cfg.correlations &&
          compilesAll e.env BaselineRule.expr BaselineRule.enabled cfg.baselines) :=
  Engine.loadRules_eq e cfg

/-- An environment that compiles the expression `true` alone. -/
def trueOnly : CelEnv :=
  ⟨fun s => if s = "true" then .ok ⟨s, .bool⟩ else .error "syntax error",
    fun _ => .ok ⟨fun _ => .ok (.bool true)⟩⟩

def alwaysRule : Rule := ⟨"R1", "always", "", "true", "low", [], true, [], false, false⟩

def brokenRule : Rule := { alwaysRule with id := "R2", expr := "kind ==" }

/-- The engine after `alwaysRule` was loaded under `trueOnly`. -/
def oneRuleEngine : Engine := ((⟨[], [], [], trueOnly, 0⟩ : Engine).loadRules ⟨[alwaysRule], [], []⟩).2

theorem loadRules_error_drops_rules :
    ((⟨[], [], [], trueOnly, 0⟩ : Engine).loadRules ⟨[alwaysRule], [], []⟩).1.toBool = true ∧
      oneRuleEngine.rules.length = 1 ∧
      (oneRuleEngine.loadRules ⟨[brokenRule], [], []⟩).1.toBool = false ∧
      (oneRuleEngine.loadRules ⟨[brokenRule], [], []⟩).2.rules.length = 0 := by
  decide

end Santamon.Rules
