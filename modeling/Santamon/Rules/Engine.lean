import Santamon.Rules.Config
import Santamon.Events.ToMap

namespace Santamon.Rules

open Santamon.Events

/-- `rules.BuildActivation`: the variables a rule expression sees. -/
structure Activation where
  event : SantaMessage
  kind : String
  machineId : String
  bootSessionUuid : String
  decodedArgs : List String

def buildActivation (msg : SantaMessage) : Activation :=
  ⟨msg, Events.kind msg, msg.getMachineId, msg.getBootSessionUuid, decodedArgs msg⟩

/-- The value of a CEL evaluation, as far as the callers look at it. -/
inductive CelValue where
  | bool (b : Bool)
  | other (typeName : String)

/-- A `cel.Program`: `Eval` on an activation gives a value or an error. -/
structure Program where
  eval : Activation → Except String CelValue

/-- The check every caller makes on `Eval`: no error and the boolean `true`. -/
def Program.matches (p : Program) (act : Activation) : Bool :=
  match p.eval act with
  | .ok (.bool true) => true
  | _ => false

inductive CelType where
  | bool
  | other (name : String)
  deriving DecidableEq

def CelType.name : CelType → String
  | .bool => "bool"
  | .other n => n

/-- A checked AST: its source and its output type. -/
structure Ast where
  expr : String
  outputType : CelType

/-- The part of `cel.Env` that `compileExpression` uses. -/
structure CelEnv where
  compile : String → Except String Ast
  program : Ast → Except String Program

/-- A rule with its compiled filter: `CompiledRule`, `CompiledCorrelation`, `CompiledBaseline`. -/
structure Compiled (α : Type) where
  rule : α
  program : Program

abbrev CompiledRule := Compiled Rule
abbrev CompiledCorrelation := Compiled CorrelationRule
abbrev CompiledBaseline := Compiled BaselineRule

structure Engine where
  rules : List CompiledRule
  correlations : List CompiledCorrelation
  baselines : List CompiledBaseline
  env : CelEnv
  startTime : Time

/-- `Engine.compileExpression`. -/
def compileExpression (env : CelEnv) (expr : String) : Except String Program :=
  match env.compile expr with
  | .error err => .error ("CEL compilation error: " ++ err)
  | .ok ast =>
    if ast.outputType ≠ .bool then
      .error ("expression must return boolean, got " ++ ast.outputType.name)
    else match env.program ast with
      | .error err => .error ("program creation error: " ++ err)
      | .ok p => .ok p

/-- One section loop of `LoadRules`. -/
def compileSection {α : Type} (env : CelEnv) (what : String) (id expr : α → String)
    (enabled : α → Bool) : List α → List (Compiled α) → Except String Unit × List (Compiled α)
  | [], acc => (.ok (), acc)
  | r :: rs, acc =>
    if !enabled r then compileSection env what id expr enabled rs acc
    else match compileExpression env (expr r) with
      | .error err => (.error ("failed to compile " ++ what ++ " " ++ id r ++ ": " ++ err), acc)
      | .ok p => compileSection env what id expr enabled rs (acc ++ [⟨r, p⟩])

/-- `Engine.LoadRules`. -/
def Engine.loadRules (e : Engine) (cfg : RulesConfig) : Except String Unit × Engine :=
  match compileSection e.env "rule" Rule.id Rule.expr Rule.enabled cfg.rules [] with
  | (.error err, rs) => (.error err, { e with rules := rs, correlations := [], baselines := [] })
  | (.ok (), rs) =>
    match compileSection e.env "correlation" CorrelationRule.id CorrelationRule.expr
      CorrelationRule.enabled cfg.correlations [] with
    | (.error err, cs) => (.error err, { e with rules := rs, correlations := cs, baselines := [] })
    | (.ok (), cs) =>
      match compileSection e.env "baseline" BaselineRule.id BaselineRule.expr
        BaselineRule.enabled cfg.baselines [] with
      | (r, bs) => (r, { e with rules := rs, correlations := cs, baselines := bs })

structure Match where
  ruleID : String
  title : String
  severity : String
  tags : List String
  message : SantaMessage
  timestamp : Time
  rule : Rule

/-- `Engine.Evaluate`: one match per enabled simple rule whose filter holds, in order. -/
def Engine.evaluate (e : Engine) (msg : SantaMessage) : List Match :=
  let act := buildActivation msg
  e.rules.filterMap fun c =>
    if c.program.matches act then
      some ⟨c.rule.id, c.rule.title, c.rule.severity, c.rule.tags, msg, eventTime msg, c.rule⟩
    else none

/-- `Engine.IsInLearningPeriod` at clock reading `now`. -/
def Engine.isInLearningPeriod (e : Engine) (now : Time) (b : BaselineRule) : Bool :=
  if b.learningPeriod = 0 then false else Time.sub now e.startTime < b.learningPeriod

end Santamon.Rules
