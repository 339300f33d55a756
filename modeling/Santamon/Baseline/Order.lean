import Santamon.Baseline.FirstSeen
import Santamon.Correlation.Order
import Santamon.Correlation.Invariant

namespace Santamon.Baseline

open Santamon.Events Santamon.Rules Santamon.State Santamon.Correlation

variable {engine : Engine} {msg : SantaMessage} {b : CompiledBaseline} {db : DB} {now : Time}
  {m : EventMap}

theorem processRule_store (hf : db.faults = []) (hm : eventMapOf msg = .ok m) :
    (processRule engine msg (buildActivation msg) now b db).2 =
      (patternOf b msg).elim db (db.addFirstSeen b.rule.id) := by
  rw [processRule_ok hf hm]
  cases patternOf b msg with
  | none => rfl
  | some p =>
    by_cases hs : db.firstSeen b.rule.id p
    · simp [hs, DB.addFirstSeen_of_firstSeen hs]
    · simp [hs]

theorem processRule_local (engine : Engine) (hm : eventMapOf msg = .ok m) (now : Time) :
    LocalStep (processRule engine msg (buildActivation msg) now) (·.rule.id) where
  ok b d hf := by
    rw [processRule_ok hf hm]
    cases patternOf b msg with
    | none => exact ⟨_, rfl⟩
    | some p => by_cases hs : d.firstSeen b.rule.id p <;> simp [hs]
  faults b d hf := by rw [processRule_store hf hm]; cases patternOf b msg <;> exact hf
  indep b b' d hne hf := by
    rw [processRule_store hf hm]
    cases patternOf b msg with
    | none => rfl
    | some p =>
      dsimp only [Option.elim]
      rw [processRule_ok hf hm, processRule_ok ((DB.addFirstSeen_faults _ _ _).trans hf) hm]
      cases patternOf b' msg with
      | none => rfl
      | some p' =>
        simp only [DB.addFirstSeen_firstSeen, hne.symm, false_and, decide_False, Bool.false_or]
        split <;> rfl
  comm b b' d _ hf := by
    have hf' (r p : String) : (d.addFirstSeen r p).faults = [] := hf
    rw [processRule_store hf hm, processRule_store hf hm]
    cases hp : patternOf b msg <;> cases hp' : patternOf b' msg <;>
      simp [processRule_store, hf, hf', hm, hp, hp', DB.addFirstSeen_comm]

theorem processLoop_eq_ruleLoop (engine : Engine) (msg : SantaMessage) (act : Activation)
    (clock : Nat → Time) (bs : List CompiledBaseline) (d : DB) :
    processLoop engine msg act clock bs d = ruleLoop (processRule engine msg act) clock bs d := by
  induction bs generalizing clock d with
  | nil => rfl
  | cons b bs ih =>
    simp only [processLoop, ruleLoop, ih]
    split <;> simp only [*]
    split <;> simp only [*]

theorem process_eq_of_error (engine : Engine) (db : DB) (bs : List CompiledBaseline)
    (clock : Nat → Time) {err : String} (he : eventMapOf msg = .error err) :
    process db msg bs engine clock =
      (if bs.any (·.program.matches (buildActivation msg)) then
        .error ("failed to convert message to map: " ++ err) else .ok [], db) := by
  have hloop : ∀ (clock : Nat → Time) (bs : List CompiledBaseline),
      processLoop engine msg (buildActivation msg) clock bs db =
        (if bs.any (·.program.matches (buildActivation msg)) then
          .error ("failed to convert message to map: " ++ err) else .ok [], db) := by
    intro clock bs
    induction bs generalizing clock with
    | nil => rfl
    | cons b bs ih =>
      cases hb : b.program.matches (buildActivation msg)
      · simp [processLoop, processRule, hb, ih]; split_ifs <;> rfl
      · simp [processLoop, processRule, hb, he]
  unfold process
  cases bs <;> simp [hloop]

theorem matchesOf_process_singleton (engine : Engine) (hm : eventMapOf msg = .ok m)
    (hf : db.faults = []) (b : CompiledBaseline) (t : Time) :
    matchesOf (process db msg [b] engine fun _ => t).1 =
      fired (processRule engine msg (buildActivation msg) t b db).1 := by
  have hd : ([b].map (·.rule.id)).Nodup := List.nodup_singleton _
  simp only [process, List.isEmpty_cons, Bool.false_eq_true, ↓reduceIte, processLoop_eq_ruleLoop,
    ruleLoop_const (processRule_local engine hm t) hd hf, List.flatMap_singleton, matchesOf]

theorem process_perm (engine : Engine) (db : DB) (msg : SantaMessage) (t : Time)
    {bs bs' : List CompiledBaseline} (hp : bs.Perm bs') (hd : (bs.map (·.rule.id)).Nodup)
    (hf : db.faults = []) :
    (process db msg bs' engine fun _ => t).1 = (process db msg bs engine fun _ => t).1.map
        (fun _ => bs'.flatMap fun b => matchesOf (process db msg [b] engine fun _ => t).1) ∧
      (process db msg bs' engine fun _ => t).2 = (process db msg bs engine fun _ => t).2 := by
  cases he : eventMapOf msg with
  | error err =>
    have hs (b : CompiledBaseline) : matchesOf (process db msg [b] engine fun _ => t).1 = [] := by
      rw [process_eq_of_error engine db _ _ he]; split <;> rfl
    simp only [hs, List.flatMap_nil]
    simp only [process_eq_of_error engine db _ _ he, List.any_eq, hp.mem_iff]
    split <;> simp [Except.map]
  | ok e =>
    simp only [matchesOf_process_singleton engine he hf]
    have hl := hp.length_eq
    unfold process
    simp only [processLoop_eq_ruleLoop, ruleLoop_perm (processRule_local engine he t) hp hd hf,
      ruleLoop_const (processRule_local engine he t) hd hf]
    cases bs <;> cases bs' <;> simp_all [Except.map]

theorem rule_order_irrelevant (db : DB) (msg : SantaMessage) (t : Time) (hf : db.faults = [])
    (wm : WindowManager) {rs rs' : List CompiledCorrelation} (hp : rs.Perm rs')
    (hd : (rs.map (·.rule.id)).Nodup) (engine : Engine) {bs bs' : List CompiledBaseline}
    (hq : bs.Perm bs') (he : (bs.map (·.rule.id)).Nodup) :
    ((wm.process db msg rs' fun _ => t).1 = (wm.process db msg rs fun _ => t).1.map
        (fun _ => rs'.flatMap fun c => Correlation.matchesOf (wm.process db msg [c] fun _ => t).1) ∧
      (wm.process db msg rs' fun _ => t).2 = (wm.process db msg rs fun _ => t).2) ∧
    ((process db msg bs' engine fun _ => t).1 = (process db msg bs engine fun _ => t).1.map
        (fun _ => bs'.flatMap fun b => matchesOf (process db msg [b] engine fun _ => t).1) ∧
      (process db msg bs' engine fun _ => t).2 = (process db msg bs engine fun _ => t).2) :=
  ⟨Correlation.process_perm wm db msg t hp hd hf, process_perm engine db msg t hq he hf⟩

theorem rule_order_irrelevant_swap :
    DB.empty.faults = [] ∧ [pairRule "R1", pairRule "R2"].Perm [pairRule "R2", pairRule "R1"] ∧
      ([pairRule "R1", pairRule "R2"].map (·.rule.id)).Nodup ∧
      [trackKind "B1", trackKind "B2"].Perm [trackKind "B2", trackKind "B1"] ∧
      ([trackKind "B1", trackKind "B2"].map (·.rule.id)).Nodup ∧
      ((WindowManager.process ⟨0, 0, 0⟩ DB.empty epochMessage [pairRule "R2", pairRule "R1"]
          fun _ => 0).1 =
        (WindowManager.process ⟨0, 0, 0⟩ DB.empty epochMessage [pairRule "R1", pairRule "R2"]
          fun _ => 0).1.map (fun _ => [pairRule "R2", pairRule "R1"].flatMap fun c =>
            Correlation.matchesOf (WindowManager.process ⟨0, 0, 0⟩ DB.empty epochMessage [c]
              fun _ => 0).1) ∧
        (WindowManager.process ⟨0, 0, 0⟩ DB.empty epochMessage [pairRule "R2", pairRule "R1"]
          fun _ => 0).2 =
        (WindowManager.process ⟨0, 0, 0⟩ DB.empty epochMessage [pairRule "R1", pairRule "R2"]
          fun _ => 0).2) ∧
      ((process DB.empty epochMessage [trackKind "B2", trackKind "B1"] idleEngine fun _ => 0).1 =
        (process DB.empty epochMessage [trackKind "B1", trackKind "B2"] idleEngine fun _ => 0).1.map
          (fun _ => [trackKind "B2", trackKind "B1"].flatMap fun b =>
            matchesOf (process DB.empty epochMessage [b] idleEngine fun _ => 0).1) ∧
        (process DB.empty epochMessage [trackKind "B2", trackKind "B1"] idleEngine fun _ => 0).2 =
        (process DB.empty epochMessage [trackKind "B1", trackKind "B2"] idleEngine fun _ => 0).2) :=
  ⟨rfl, .swap _ _ _, by decide, .swap _ _ _, by decide,
    rule_order_irrelevant DB.empty epochMessage 0 rfl ⟨0, 0, 0⟩ (.swap _ _ _) (by decide) idleEngine
      (.swap _ _ _) (by decide)⟩

end Santamon.Baseline
