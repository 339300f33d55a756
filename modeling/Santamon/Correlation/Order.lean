import Santamon.Correlation.Step
import Santamon.State.RuleLoop
import Mathlib.Logic.Function.Basic

namespace Santamon.Correlation

open Santamon.Events Santamon.Rules Santamon.State

variable {wm : WindowManager} {eventMap : EventMap} {act : Activation} {now : Time}
  {c : CompiledCorrelation} {d : DB}

theorem processRule_frame (hf : d.faults = []) :
    (wm.processRule eventMap act now c d).2 = { d with windows := (Function.update d.windows
      c.rule.id ((wm.processRule eventMap act now c d).2.windows c.rule.id)) } := by
  cases hm : c.program.matches act
  · rw [processRule_of_not_matches hm, Function.update_eq_self]
  · rw [processRule_ok hf hm]
    dsimp only
    split <;>
    · simp only [DB.setWindow, DB.mk.injEq, and_true, true_and]
      funext r g
      by_cases hr : r = c.rule.id
      · subst hr; simp
      · simp [hr]

theorem processRule_congr_bucket {d' : DB} (hf : d.faults = []) (hf' : d'.faults = [])
    (hw : d.windows c.rule.id = d'.windows c.rule.id) :
    (wm.processRule eventMap act now c d).1 = (wm.processRule eventMap act now c d').1 ∧
      (wm.processRule eventMap act now c d).2.windows c.rule.id =
        (wm.processRule eventMap act now c d').2.windows c.rule.id := by
  cases hm : c.program.matches act
  · simp only [processRule_of_not_matches hm, hw, and_self]
  · rw [processRule_ok hf hm, processRule_ok hf' hm]
    dsimp only
    rw [hw]
    split <;> exact ⟨rfl, funext fun g => by simp [DB.setWindow_windows, hw]⟩

theorem processRule_update (hf : d.faults = []) {r : String} (hr : r ≠ c.rule.id)
    (w : String → List EventMap) :
    wm.processRule eventMap act now c { d with windows := Function.update d.windows r w } =
      ((wm.processRule eventMap act now c d).1, { d with windows := (Function.update
        (Function.update d.windows r w) c.rule.id
          ((wm.processRule eventMap act now c d).2.windows c.rule.id)) }) := by
  have hf' : ({ d with windows := Function.update d.windows r w } : DB).faults = [] := hf
  have hw := Function.update_noteq hr.symm w d.windows
  exact Prod.ext (processRule_congr_bucket hf' hf hw).1
    (by rw [processRule_frame hf', (processRule_congr_bucket hf' hf hw).2])

theorem processRule_local (wm : WindowManager) (eventMap : EventMap) (act : Activation)
    (now : Time) : LocalStep (wm.processRule eventMap act now) (·.rule.id) where
  ok c d hf :=
    let ⟨o, _, h, _⟩ := @processRule_fault_free wm eventMap act now c d hf
    ⟨o, by rw [h]⟩
  faults _ _ hf := by rw [processRule_frame hf]; exact hf
  indep c c' _ hne hf := by rw [processRule_frame hf (c := c), processRule_update hf hne]
  comm c c' _ hne hf := by
    rw [processRule_frame hf (c := c), processRule_frame hf (c := c'), processRule_update hf hne,
      processRule_update hf hne.symm]
    simp only [Function.update_comm hne]

theorem processLoop_eq_ruleLoop (wm : WindowManager) (eventMap : EventMap) (act : Activation)
    (clock : Nat → Time) (rs : List CompiledCorrelation) (d : DB) :
    wm.processLoop eventMap act clock rs d = ruleLoop (wm.processRule eventMap act) clock rs d := by
  induction rs generalizing clock d with
  | nil => rfl
  | cons c cs ih =>
    simp only [WindowManager.processLoop, ruleLoop, ih]
    split <;> simp only [*]
    split <;> simp only [*]

theorem matchesOf_process_singleton (wm : WindowManager) {msg : SantaMessage}
    (he : eventMapOf msg = .ok eventMap) (hf : d.faults = []) (c : CompiledCorrelation)
    (t : Time) : matchesOf (wm.process d msg [c] fun _ => t).1 =
      fired (wm.processRule eventMap (buildActivation msg) t c d).1 := by
  have h := congrArg Prod.fst (process_eq_processLoop wm d [c] (fun _ => t) he)
  have hd : ([c].map (·.rule.id)).Nodup := List.nodup_singleton _
  rw [processLoop_eq_ruleLoop, ruleLoop_const (processRule_local ..) hd hf] at h
  simp only [List.flatMap_singleton] at h
  rw [h, matchesOf]

theorem process_perm (wm : WindowManager) (db : DB) (msg : SantaMessage) (t : Time)
    {rs rs' : List CompiledCorrelation} (hp : rs.Perm rs') (hd : (rs.map (·.rule.id)).Nodup)
    (hf : db.faults = []) :
    (wm.process db msg rs' fun _ => t).1 = (wm.process db msg rs fun _ => t).1.map
        (fun _ => rs'.flatMap fun c => matchesOf (wm.process db msg [c] fun _ => t).1) ∧
      (wm.process db msg rs' fun _ => t).2 = (wm.process db msg rs fun _ => t).2 := by
  have hl := hp.length_eq
  cases he : eventMapOf msg with
  | error err =>
    unfold WindowManager.process
    cases rs <;> cases rs' <;> simp_all [Except.map]
  | ok e =>
    simp only [matchesOf_process_singleton wm he hf]
    unfold WindowManager.process
    simp only [he, processLoop_eq_ruleLoop, ruleLoop_perm (processRule_local ..) hp hd hf,
      ruleLoop_const (processRule_local ..) hd hf]
    cases rs <;> cases rs' <;> simp_all [Except.map]

end Santamon.Correlation
