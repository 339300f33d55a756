import Santamon.Correlation.WindowManager

namespace Santamon.Baseline

open Santamon.Events Santamon.Rules Santamon.State Santamon.Correlation

structure BaselineMatch where
  ruleID : String
  title : String
  severity : String
  tags : List String
  description : String
  pattern : String
  message : SantaMessage
  timestamp : Time
  inLearning : Bool

/-- `Processor.extractPattern`. -/
def extractPattern (event : EventMap) (trackFields : List String) : String :=
  joinFields event trackFields

def BaselineMatch.ofRule (rule : BaselineRule) (pattern : String) (msg : SantaMessage)
    (inLearning : Bool) : BaselineMatch :=
  ⟨rule.id, rule.title, rule.severity, rule.tags, rule.description, pattern, msg, eventTime msg,
    inLearning⟩

/-- One iteration of the baseline loop of `Process`, at clock reading `now`. -/
def processRule (engine : Engine) (msg : SantaMessage) (act : Activation) (now : Time)
    (b : CompiledBaseline) (db : DB) : Except String (Option BaselineMatch) × DB :=
  if !b.program.matches act then (.ok none, db)
  else match eventMapOf msg with
    | .error err => (.error ("failed to convert message to map: " ++ err), db)
    | .ok eventMap =>
      let pattern := extractPattern eventMap b.rule.track
      match db.isFirstSeen b.rule.id pattern with
      | (.error err, db) =>
        (.error ("failed to check first seen for " ++ b.rule.id ++ ": " ++ err), db)
      | (.ok false, db) => (.ok none, db)
      | (.ok true, db) =>
        (.ok (some (.ofRule b.rule pattern msg (engine.isInLearningPeriod now b.rule))), db)

/-- The baseline loop of `Process`; `clock i` is the reading for the `i`-th baseline. -/
def processLoop (engine : Engine) (msg : SantaMessage) (act : Activation) :
    (Nat → Time) → List CompiledBaseline → DB → Except String (List BaselineMatch) × DB
  | _, [], db => (.ok [], db)
  | clock, b :: bs, db =>
    match processRule engine msg act (clock 0) b db with
    | (.error err, db) => (.error err, db)
    | (.ok m, db) =>
      match processLoop engine msg act (fun i => clock (i + 1)) bs db with
      | (.error err, db) => (.error err, db)
      | (.ok ms, db) => (.ok (m.toList ++ ms), db)

/-- `Processor.Process`. -/
def process (db : DB) (msg : SantaMessage) (baselines : List CompiledBaseline) (engine : Engine)
    (clock : Nat → Time) : Except String (List BaselineMatch) × DB :=
  if baselines.isEmpty then (.ok [], db)
  else processLoop engine msg (buildActivation msg) clock baselines db

end Santamon.Baseline
