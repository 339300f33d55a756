import Santamon.Correlation.WindowManager
import Mathlib.Data.Finset.Card

namespace Santamon.Correlation

open Santamon.Events Santamon.Rules Santamon.State

theorem truncate_sublist (M : Int) (xs : List EventMap) : (truncate M xs).Sublist xs := by
  unfold truncate; split
  · exact List.drop_sublist _ _
  · exact List.Sublist.refl _

theorem truncate_length_le {M : Int} (hM : 0 < M) (xs : List EventMap) :
    ((truncate M xs).length : Int) ≤ M := by
  unfold truncate; split
  · simp only [List.length_drop]; omega
  · omega

theorem truncate_append_getLast (M : Int) (xs : List EventMap) (e : EventMap) :
    (truncate M (xs ++ [e])).getLast? = some e := by
  unfold truncate; split
  · rename_i h
    rw [List.getLast?_drop, if_neg (by simp; omega)]
    simp
  · simp

@[simp] theorem countEvents_nil (rule : CorrelationRule) : countEvents [] rule = 0 := by
  unfold countEvents; split <;> rfl

theorem countEvents_le_length (xs : List EventMap) (rule : CorrelationRule) :
    countEvents xs rule ≤ xs.length := by
  unfold countEvents; split
  · calc (distinctValues xs rule.countDistinct).dedup.length
        ≤ (distinctValues xs rule.countDistinct).length := (List.dedup_sublist _).length_le
      _ ≤ xs.length := (List.length_filter_le _ _).trans (List.length_map _ _).le
  · exact le_rfl

theorem countEvents_sublist {xs ys : List EventMap} (h : xs.Sublist ys) (rule : CorrelationRule) :
    countEvents xs rule ≤ countEvents ys rule := by
  unfold countEvents; split
  · have hs : (distinctValues xs rule.countDistinct).Sublist (distinctValues ys rule.countDistinct) :=
      (h.map _).filter _
    rw [← List.card_toFinset, ← List.card_toFinset]
    exact Finset.card_le_card fun x hx => List.mem_toFinset.mpr (hs.subset (List.mem_toFinset.mp hx))
  · exact h.length_le

variable {wm : WindowManager} {eventMap : EventMap} {act : Activation} {now : Time}
  {c : CompiledCorrelation} {db : DB}

theorem processRule_of_not_matches (h : c.program.matches act = false) :
    wm.processRule eventMap act now c db = (.ok none, db) := by
  simp [WindowManager.processRule, h]

theorem processRule_ok (hf : db.faults = []) (h : c.program.matches act = true) :
    wm.processRule eventMap act now c db =
      let g := extractGroupKey eventMap c.rule.groupBy
      let recent := wm.recentEvents now c.rule (db.windows c.rule.id g ++ [eventMap])
      if c.rule.threshold ≤ countEvents recent c.rule then
        (.ok (some (.ofRule c.rule (countEvents recent c.rule) recent g)), db.setWindow c.rule.id g [])
      else (.ok none, db.setWindow c.rule.id g recent) := by
  have hf' (r g : String) (es : List EventMap) : (db.setWindow r g es).faults = [] := hf
  simp only [WindowManager.processRule, h, Bool.not_true, Bool.false_eq_true, ↓reduceIte,
    DB.storeWindowEvent_ok hf, DB.getWindowEvents_ok (hf' ..), DB.setWindow_same,
    DB.replaceWindowEvents_ok (hf' ..), DB.setWindow_setWindow]

theorem processRule_fault_free (hf : db.faults = []) :
    ∃ o db', wm.processRule eventMap act now c db = (.ok o, db') ∧ db'.faults = [] := by
  cases h : c.program.matches act
  · exact ⟨none, db, processRule_of_not_matches h, hf⟩
  · rw [processRule_ok hf h]; dsimp only; split
    · exact ⟨_, _, rfl, hf⟩
    · exact ⟨_, _, rfl, hf⟩

theorem processLoop_preserves {P : DB → Prop} {Q : Time → CompiledCorrelation → WindowMatch → Prop}
    {cs : List CompiledCorrelation}
    (hstep : ∀ now c db, c ∈ cs → P db → db.faults = [] →
      P (wm.processRule eventMap act now c db).2 ∧
        ∀ m, (wm.processRule eventMap act now c db).1 = .ok (some m) → Q now c m)
    (clock : Nat → Time) (hf : db.faults = []) (hp : P db) :
    ∃ ms db', wm.processLoop eventMap act clock cs db = (.ok ms, db') ∧ db'.faults = [] ∧ P db' ∧
      ∀ m ∈ ms, ∃ i c, cs.get? i = some c ∧ Q (clock i) c m := by
  induction cs generalizing clock db with
  | nil => exact ⟨[], db, rfl, hf, hp, by simp⟩
  | cons c cs ih =>
    obtain ⟨o, db₁, h₁, hf₁⟩ : ∃ o db₁, wm.processRule eventMap act (clock 0) c db = (.ok o, db₁) ∧
      db₁.faults = [] := processRule_fault_free hf
    have hs := hstep (clock 0) c db (List.mem_cons_self _ _) hp hf
    rw [h₁] at hs
    obtain ⟨ms, db₂, h₂, hf₂, hp₂, hq₂⟩ :=
      ih (fun now c db hc => hstep now c db (List.mem_cons_of_mem _ hc)) (fun i => clock (i + 1)) hf₁ hs.1
    refine ⟨o.toList ++ ms, db₂, by simp [WindowManager.processLoop, h₁, h₂], hf₂, hp₂, ?_⟩
    intro m hm
    rcases List.mem_append.mp hm with hm | hm
    · exact ⟨0, c, rfl, hs.2 m (by simpa using hm)⟩
    · obtain ⟨i, c', hi, hq⟩ := hq₂ m hm
      exact ⟨i + 1, c', hi, hq⟩

theorem process_eq_processLoop (wm : WindowManager) (db : DB) {msg : SantaMessage}
    (rs : List CompiledCorrelation) (clock : Nat → Time) (he : eventMapOf msg = .ok eventMap) :
    ((wm.process db msg rs clock).1, (wm.process db msg rs clock).2.1) =
      wm.processLoop eventMap (buildActivation msg) clock rs db := by
  unfold WindowManager.process
  cases rs with
  | nil => rfl
  | cons c cs =>
    rcases h : wm.processLoop eventMap (buildActivation msg) clock (c :: cs) db with ⟨_ | _, _⟩ <;>
      simp only [List.isEmpty_cons, Bool.false_eq_true, ↓reduceIte, he, h]

theorem process_of_error (wm : WindowManager) (db : DB) {msg : SantaMessage}
    (rs : List CompiledCorrelation) (clock : Nat → Time) {err : String}
    (he : eventMapOf msg = .error err) :
    (wm.process db msg rs clock).2.1 = db ∧ matchesOf (wm.process db msg rs clock).1 = [] := by
  unfold WindowManager.process
  cases rs with
  | nil => exact ⟨rfl, rfl⟩
  | cons c cs => simp [he, matchesOf]

theorem process_preserves {P : DB → Prop}
    (Q : Time → CompiledCorrelation → EventMap → WindowMatch → Prop) {msg : SantaMessage}
    {rs : List CompiledCorrelation} (clock : Nat → Time)
    (hstep : ∀ now c db e, c ∈ rs → eventMapOf msg = .ok e → P db → db.faults = [] →
      P (wm.processRule e (buildActivation msg) now c db).2 ∧
        ∀ m, (wm.processRule e (buildActivation msg) now c db).1 = .ok (some m) → Q now c e m)
    (hf : db.faults = []) (hp : P db) :
    (wm.process db msg rs clock).2.1.faults = [] ∧ P (wm.process db msg rs clock).2.1 ∧
      ∀ e, eventMapOf msg = .ok e → ∀ m ∈ matchesOf (wm.process db msg rs clock).1,
        ∃ i c, rs.get? i = some c ∧ Q (clock i) c e m := by
  cases he : eventMapOf msg with
  | error err =>
    obtain ⟨h₁, h₂⟩ := process_of_error wm db rs clock he
    simp [h₁, h₂, hf, hp]
  | ok e =>
    obtain ⟨ms, db', hl, hf', hp', hq⟩ :=
      processLoop_preserves (fun now c db hc => hstep now c db e hc he) clock hf hp
    have h := process_eq_processLoop wm db rs clock he
    rw [hl, Prod.mk.injEq] at h
    rw [h.1, h.2]
    exact ⟨hf', hp', fun e' he' m hm => by cases he'; exact hq m hm⟩

end Santamon.Correlation
