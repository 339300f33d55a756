import Santamon.Events.Clock

namespace Santamon.Rules

open Santamon.Events

/-- A simple rule of `rules.yaml`. -/
structure Rule where
  id : String
  title : String
  description : String
  expr : String
  severity : String
  tags : List String
  enabled : Bool
  extraContext : List String
  includeEvent : Bool
  includeProcessTree : Bool
  deriving Repr, DecidableEq

structure CorrelationRule where
  id : String
  title : String
  description : String
  expr : String
  window : Duration
  groupBy : List String
  countDistinct : String
  threshold : Int
  severity : String
  tags : List String
  enabled : Bool
  deriving Repr, DecidableEq

structure BaselineRule where
  id : String
  title : String
  description : String
  expr : String
  track : List String
  severity : String
  tags : List String
  enabled : Bool
  learningPeriod : Duration
  deriving Repr, DecidableEq

structure RulesConfig where
  rules : List Rule
  correlations : List CorrelationRule
  baselines : List BaselineRule
  deriving Repr, DecidableEq

def validSeverities : List String := ["low", "medium", "high", "critical"]

def errRequired (field : String) : String := field ++ " is required"

def errInvalidSeverity (severity : String) : String :=
  "invalid severity: " ++ severity ++ " (must be low/medium/high/critical)"

def errInvalidField (field : String) (index : Nat) : String :=
  field ++ " field " ++ toString index ++ " is empty"

def errDuplicateIDConflict (id : String) : String :=
  "duplicate rule ID: " ++ id ++ " (conflicts with existing rule)"

/-- The first empty entry of a list of field paths. -/
def firstEmpty (what : String) : Nat → List String → Except String Unit
  | _, [] => .ok ()
  | i, f :: fs => if f = "" then .error (errInvalidField what i) else firstEmpty what (i + 1) fs

/-- `Rule.Validate`. -/
def Rule.validate (r : Rule) : Except String Unit :=
  if r.id = "" then .error (errRequired "rule ID")
  else if r.title = "" then .error (errRequired "rule title")
  else if r.expr = "" then .error (errRequired "rule expression")
  else if r.severity = "" then .error (errRequired "rule severity")
  else if r.severity ∉ validSeverities then .error (errInvalidSeverity r.severity)
  else .ok ()

/-- `CorrelationRule.Validate`. -/
def CorrelationRule.validate (cr : CorrelationRule) : Except String Unit :=
  if cr.id = "" then .error (errRequired "correlation ID")
  else if cr.title = "" then .error (errRequired "correlation title")
  else if cr.expr = "" then .error (errRequired "correlation expression")
  else if cr.window = 0 then .error (errRequired "correlation window")
  else if cr.threshold ≤ 0 then .error "correlation threshold must be greater than 0"
  else if cr.severity = "" then .error (errRequired "correlation severity")
  else if cr.severity ∉ validSeverities then .error (errInvalidSeverity cr.severity)
  else firstEmpty "group_by" 0 cr.groupBy

/-- `BaselineRule.Validate`. -/
def BaselineRule.validate (br : BaselineRule) : Except String Unit :=
  if br.id = "" then .error (errRequired "baseline ID")
  else if br.title = "" then .error (errRequired "baseline title")
  else if br.expr = "" then .error (errRequired "baseline expression")
  else if br.track = [] then .error (errRequired "baseline track fields (at least one required)")
  else if br.severity = "" then .error (errRequired "baseline severity")
  else if br.severity ∉ validSeverities then .error (errInvalidSeverity br.severity)
  else firstEmpty "track" 0 br.track

/-- One section loop of `RulesConfig.Validate`: `seen` is the IDs met so far. -/
def validateSection {α : Type} (duplicate : String → String) (wrap : String) (id : α → String)
    (validate : α → Except String Unit) : List String → List α → Except String (List String)
  | seen, [] => .ok seen
  | seen, r :: rs =>
    if id r ∈ seen then .error (duplicate (id r))
    else match validate r with
      | .error err => .error (wrap ++ " " ++ id r ++ ": " ++ err)
      | .ok () => validateSection duplicate wrap id validate (id r :: seen) rs

/-- `RulesConfig.Validate`. -/
def RulesConfig.validate (rc : RulesConfig) : Except String Unit := do
  let seen ← validateSection (fun id => "duplicate rule ID: " ++ id) "invalid rule" Rule.id
    Rule.validate [] rc.rules
  let seen ← validateSection errDuplicateIDConflict "invalid correlation rule" CorrelationRule.id
    CorrelationRule.validate seen rc.correlations
  let _ ← validateSection errDuplicateIDConflict "invalid baseline rule" BaselineRule.id
    BaselineRule.validate seen rc.baselines
  pure ()

end Santamon.Rules
