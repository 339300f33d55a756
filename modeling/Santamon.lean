import Santamon.Events.Clock
import Santamon.Events.Value
import Santamon.Events.Message
import Santamon.Events.ToMap
import Santamon.Events.Args
import Santamon.Events.Format
import Santamon.Events.Parse
import Santamon.Events.Accessors
import Santamon.Rules.Config
import Santamon.Rules.Validate
import Santamon.Rules.Engine
import Santamon.Rules.Load
import Santamon.Rules.Evaluate
import Santamon.State.DB
import Santamon.State.RuleLoop
import Santamon.Correlation.WindowManager
import Santamon.Correlation.Step
import Santamon.Correlation.Invariant
import Santamon.Correlation.Firing
import Santamon.Correlation.Arrival
import Santamon.Correlation.Order
import Santamon.Correlation.EventTime
import Santamon.Baseline.Processor
import Santamon.Baseline.FirstSeen
import Santamon.Baseline.Keys
import Santamon.Baseline.Order
import Santamon.Lineage.Store
import Santamon.Lineage.Invariant
import Santamon.Lineage.Walk
import Santamon.Signals.Sha256
import Santamon.Signals.Generator
import Santamon.Signals.Sample
import Santamon.Signals.Context
import Santamon.Signals.Identity
import Santamon.Signals.ProcessTree
import Santamon.Signals.FieldPaths
