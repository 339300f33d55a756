import Santamon.Correlation.Firing

namespace Santamon.Correlation

open Santamon.Events Santamon.Rules Santamon.State

/-- Every entry of every bucket satisfies `S`. -/
def Stored (S : EventMap → Prop) (db : DB) : Prop :=
  ∀ r g, ∀ x ∈ db.windows r g, S x

variable {S : EventMap → Prop} {wm wm' : WindowManager} {e : EventMap} {act : Activation}

theorem Stored.attempt {db : DB} (h : Stored S db) : Stored S db.attempt.2 := by
  intro r g x hx; rw [DB.attempt_windows] at hx; exact h r g x hx

theorem Stored.setWindow {db : DB} (h : Stored S db) {r g : String} {xs : List EventMap}
    (hx : ∀ x ∈ xs, S x) : Stored S (db.setWindow r g xs) := by
  intro r' g' x h'
  rw [DB.setWindow_windows] at h'
  split at h'
  · exact hx x h'
  · exact h r' g' x h'

theorem recentEvents_congr (hM : wm.maxEvents = wm'.maxEvents) {now now' : Time}
    {rule : CorrelationRule} {xs : List EventMap}
    (hw : ∀ x ∈ xs, withinWindow x now rule.window = withinWindow x now' rule.window) :
    wm.recentEvents now rule xs = wm'.recentEvents now' rule xs := by
  rw [WindowManager.recentEvents, WindowManager.recentEvents, hM, List.filter_congr hw]

theorem processRule_congr (act : Activation) (hM : wm.maxEvents = wm'.maxEvents) {now now' : Time}
    {c : CompiledCorrelation} {db : DB} (hS : Stored S db) (he : S e)
    (hw : ∀ x, S x → withinWindow x now c.rule.window = withinWindow x now' c.rule.window) :
    wm.processRule e act now c db = wm'.processRule e act now' c db ∧
      Stored S (wm.processRule e act now c db).2 := by
  unfold WindowManager.processRule
  split
  · exact ⟨rfl, hS⟩
  have hS₁ := hS.attempt
  unfold DB.storeWindowEvent
  rcases h₁ : db.attempt with ⟨_ | _, d₁⟩
  · rw [h₁] at hS₁
    dsimp only
    unfold DB.getWindowEvents
    set d₂ := d₁.setWindow c.rule.id (extractGroupKey e c.rule.groupBy)
      (d₁.windows c.rule.id (extractGroupKey e c.rule.groupBy) ++ [e])
    have hS₂ : Stored S d₂.attempt.2 := (hS₁.setWindow fun x hx =>
      (List.mem_append.mp hx).elim (hS₁ _ _ x) fun hx => List.mem_singleton.mp hx ▸ he).attempt
    rcases h₂ : d₂.attempt with ⟨_ | _, d₃⟩
    · rw [h₂] at hS₂
      dsimp only
      rw [recentEvents_congr hM fun x hx => hw x (hS₂ _ _ x hx)]
      refine ⟨rfl, ?_⟩
      have hr : ∀ x ∈ wm'.recentEvents now' c.rule (d₃.windows c.rule.id
          (extractGroupKey e c.rule.groupBy)), S x :=
        fun x hx => hS₂ _ _ x ((recentEvents_sublist _).subset hx)
      have hS₄ := hS₂.attempt
      unfold DB.replaceWindowEvents
      split <;> rcases h₃ : d₃.attempt with ⟨_ | _, d₄⟩ <;> rw [h₃] at hS₄
      · exact hS₄.setWindow (by simp)
      · exact hS₄
      · exact hS₄.setWindow hr
      · exact hS₄
    · rw [h₂] at hS₂
      exact ⟨rfl, hS₂⟩
  · rw [h₁] at hS₁
    exact ⟨rfl, hS₁⟩

theorem processLoop_congr (act : Activation) (hM : wm.maxEvents = wm'.maxEvents) {cs : List CompiledCorrelation}
    (clock clock' : Nat → Time)
    (hw : ∀ i c, cs.get? i = some c → ∀ x, S x →
      withinWindow x (clock i) c.rule.window = withinWindow x (clock' i) c.rule.window)
    {db : DB} (hS : Stored S db) (he : S e) :
    wm.processLoop e act clock cs db = wm'.processLoop e act clock' cs db ∧
      Stored S (wm.processLoop e act clock cs db).2 := by
  induction cs generalizing clock clock' db with
  | nil => exact ⟨rfl, hS⟩
  | cons c cs ih =>
    obtain ⟨h₁, hS₁⟩ := processRule_congr act hM hS he (hw 0 c rfl)
    simp only [WindowManager.processLoop, ← h₁]
    rcases hr : wm.processRule e act (clock 0) c db with ⟨_ | o, db₁⟩
    · rw [hr] at hS₁; exact ⟨rfl, hS₁⟩
    · rw [hr] at hS₁
      obtain ⟨h₂, hS₂⟩ := ih (fun i => clock (i + 1)) (fun i => clock' (i + 1))
        (fun i c' hc' => hw (i + 1) c' hc') (show Stored S db₁ from hS₁)
      dsimp only
      rw [← h₂]
      refine ⟨rfl, ?_⟩
      rcases h₃ : wm.processLoop e act (fun i => clock (i + 1)) cs db₁ with ⟨_ | _, db₂⟩ <;>
        rw [h₃] at hS₂ <;> exact hS₂

theorem process_congr (hM : wm.maxEvents = wm'.maxEvents) {db : DB} (msg : SantaMessage)
    (rs : List CompiledCorrelation) (clock clock' : Nat → Time)
    (hw : ∀ i c, rs.get? i = some c → ∀ x, S x →
      withinWindow x (clock i) c.rule.window = withinWindow x (clock' i) c.rule.window)
    (hS : Stored S db) (he : ∀ e, eventMapOf msg = .ok e → S e) :
    ((wm.process db msg rs clock).1, (wm.process db msg rs clock).2.1) =
        ((wm'.process db msg rs clock').1, (wm'.process db msg rs clock').2.1) ∧
      Stored S (wm.process db msg rs clock).2.1 := by
  cases hm : eventMapOf msg with
  | error err =>
    have h (v : WindowManager) (k : Nat → Time) :
        ((v.process db msg rs k).1, (v.process db msg rs k).2.1) =
          (if rs.isEmpty then .ok [] else .error ("failed to convert message to map: " ++ err), db) := by
      unfold WindowManager.process; split <;> simp [hm]
    rw [h, h]
    exact ⟨rfl, by rw [(Prod.mk.inj (h wm clock)).2]; exact hS⟩
  | ok e =>
    obtain ⟨h, hS'⟩ := processLoop_congr (buildActivation msg) hM clock clock' hw hS (he e hm)
    rw [process_eq_processLoop wm db rs clock hm, process_eq_processLoop wm' db rs clock' hm, h]
    refine ⟨rfl, ?_⟩
    rw [← congrArg Prod.snd (process_eq_processLoop wm db rs clock hm)] at hS'
    exact hS'

/-- The two clock readings of one call agree on the stored entries and the call's own map. -/
def ClocksAgree (rules : List CompiledCorrelation) (db : DB) (msg : SantaMessage)
    (clock clock' : Nat → Time) : Prop :=
  ∀ i c, rules.get? i = some c → ∀ y, ((∃ r g, y ∈ db.windows r g) ∨ eventMapOf msg = .ok y) →
    withinWindow y (clock i) c.rule.window = withinWindow y (clock' i) c.rule.window

/-- `ClocksAgree` at every call, each read in the store the earlier calls reached. -/
def AgreeAlong (rules : List CompiledCorrelation) :
    WindowManager → DB → List (SantaMessage × (Nat → Time) × (Nat → Time)) → Prop
  | _, _, [] => True
  | wm, db, (msg, clock, clock') :: calls => ClocksAgree rules db msg clock clock' ∧
      AgreeAlong rules (wm.process db msg rules clock).2.2 (wm.process db msg rules clock).2.1 calls

theorem trace_congr_within {rules : List CompiledCorrelation} (wm wm' : WindowManager)
    (hM : wm.maxEvents = wm'.maxEvents) (db : DB)
    (calls : List (SantaMessage × (Nat → Time) × (Nat → Time))) (hw : AgreeAlong rules wm db calls) :
    wm.trace rules db (calls.map fun x => (x.1, x.2.1)) =
      wm'.trace rules db (calls.map fun x => (x.1, x.2.2)) := by
  induction calls generalizing wm wm' db with
  | nil => rfl
  | cons x calls ih =>
    obtain ⟨msg, clock, clock'⟩ := x
    obtain ⟨hc, hrest⟩ := hw
    obtain ⟨h₁, h₂⟩ := Prod.mk.inj (process_congr (S := fun y =>
      (∃ r g, y ∈ db.windows r g) ∨ eventMapOf msg = .ok y) hM msg rules clock clock' hc
      (fun r g _ hy => .inl ⟨r, g, hy⟩) fun _ => .inr).1
    simp only [List.map_cons, WindowManager.trace]
    rw [h₁, h₂]
    congr 1
    exact ih _ _ (by rw [process_maxEvents, process_maxEvents, hM]) _ (h₂ ▸ hrest)

/-- A correlation rule with a ten-nanosecond window and threshold 2 that always holds. -/
def shortRule : CompiledCorrelation :=
  ⟨⟨"S1", "short", "", "true", 10, [], "", 2, "low", [], true⟩, ⟨fun _ => .ok (.bool true)⟩⟩

/-- A message with only `event_time` set, 95 ns after the epoch. -/
def laterMessage : SantaMessage := ⟨none, none, some ⟨0, 95⟩, none, .unset⟩

/-- An epoch message read at 100 ns or 200 ns, then a message stamped at 95 ns read at 100 ns. -/
def waitedCalls : List (SantaMessage × (Nat → Time) × (Nat → Time)) :=
  [(epochMessage, fun _ => 100, fun _ => 200), (laterMessage, fun _ => 100, fun _ => 100)]

theorem trace_congr_within_waited :
    (⟨0, 0, 0⟩ : WindowManager).maxEvents = (⟨0, 5, 0⟩ : WindowManager).maxEvents ∧
      AgreeAlong [shortRule] ⟨0, 0, 0⟩ DB.empty waitedCalls ∧
      WindowManager.trace [shortRule] ⟨0, 0, 0⟩ DB.empty
          (waitedCalls.map fun x => (x.1, x.2.1)) =
        WindowManager.trace [shortRule] ⟨0, 5, 0⟩ DB.empty
          (waitedCalls.map fun x => (x.1, x.2.2)) := by
  have hw : AgreeAlong [shortRule] ⟨0, 0, 0⟩ DB.empty waitedCalls := by
    refine ⟨?_, fun _ _ _ _ _ => rfl, trivial⟩
    rintro (_ | i) c hc y (⟨r, g, hy⟩ | hy)
    · exact absurd hy (List.not_mem_nil y)
    · cases hc
      simp only [withinWindow, eventMapOf_event_time hy rfl]
      decide
    all_goals cases hc
  exact ⟨rfl, hw, trace_congr_within ⟨0, 0, 0⟩ ⟨0, 5, 0⟩ rfl DB.empty waitedCalls hw⟩

set_option maxRecDepth 4000 in
theorem arrival_time_changes_matches :
    eventTime epochMessage = 0 ∧
      (WindowManager.trace [shortRule] ⟨0, 0, 0⟩ DB.empty
        [(epochMessage, fun _ => 0), (epochMessage, fun _ => 0)]).map (·.1.length) = [0, 1] ∧
      (WindowManager.trace [shortRule] ⟨0, 0, 0⟩ DB.empty
        [(epochMessage, fun _ => 0), (epochMessage, fun _ => 100)]).map (·.1.length) = [0, 0] := by
  decide

end Santamon.Correlation
