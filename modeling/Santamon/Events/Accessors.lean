import Santamon.Events.ToMap

namespace Santamon.Events

/-- `events.Decision`: the enum's name, or its number when unknown; an unset field reads 0. -/
def decision (msg : SantaMessage) : String :=
  match msg.event with
  | .execution e => enumName decisionNames (e.decision.getD 0)
  | .fileAccess f => enumName policyDecisionNames (f.policyDecision.getD 0)
  | _ => ""

/-- `events.TargetSHA256`. -/
def targetSHA256 (msg : SantaMessage) : String :=
  match msg.event with
  | .execution e => (((e.target.bind (·.executable)).bind (·.hash)).bind (·.hash)).getD ""
  | _ => ""

/-- `events.TargetPath`. -/
def targetPath (msg : SantaMessage) : String :=
  match msg.event with
  | .execution e => ((e.target.bind (·.executable)).bind (·.path)).getD ""
  | .fileAccess f => (f.target.bind (·.path)).getD ""
  | .xprotect x => (x.detected.bind (·.detectedPath)).getD ""
  | _ => ""

/-- `events.ActorPath`. -/
def actorPath (msg : SantaMessage) : String :=
  match msg.event with
  | .execution e => ((e.instigator.bind (·.executable)).bind (·.path)).getD ""
  | .fileAccess f => ((f.instigator.bind (·.executable)).bind (·.path)).getD ""
  | _ => ""

/-- A field of the instigator's code signature, as `ActorTeam` and `ActorSigningID` read it. -/
def actorCodeSignature (field : CodeSignature → Option String) (msg : SantaMessage) : String :=
  match msg.event with
  | .fileAccess f => ((f.instigator.bind (·.codeSignature)).bind field).getD ""
  | _ => ""

/-- `events.ActorTeam`. -/
def actorTeam (msg : SantaMessage) : String := actorCodeSignature (·.teamId) msg

/-- `events.ActorSigningID`. -/
def actorSigningID (msg : SantaMessage) : String := actorCodeSignature (·.signingId) msg

/-- `events.TargetTeam`. -/
def targetTeam (msg : SantaMessage) : String :=
  match msg.event with
  | .execution e => ((e.target.bind (·.codeSignature)).bind (·.teamId)).getD ""
  | _ => ""

/-- The top-level keys `KindFromMap` checks, in its order. -/
def kindKeys : List String :=
  ["execution", "file_access", "xprotect", "tcc_modification", "launch_item", "open_ssh",
    "authentication", "gatekeeper_override"]

/-- `events.KindFromMap`: the first of `kindKeys` present in the map. -/
def kindFromMap (evt : EventMap) : String :=
  (kindKeys.find? fun k => (evt.field? k).isSome).getD "unknown"

theorem find?_congr_mem {α : Type} {l : List α} {p q : α → Bool} (h : ∀ a ∈ l, p a = q a) :
    l.find? p = l.find? q := by
  induction l with
  | nil => rfl
  | cons a l ih =>
    simp only [List.find?_cons, h a (List.mem_cons_self a l),
      ih fun b hb => h b (List.mem_cons_of_mem a hb)]

theorem kindFromMap_congr {m m' : EventMap}
    (h : ∀ k ∈ kindKeys, (m.field? k).isSome = (m'.field? k).isSome) :
    kindFromMap m = kindFromMap m' := by
  rw [kindFromMap, kindFromMap, find?_congr_mem h]

end Santamon.Events
