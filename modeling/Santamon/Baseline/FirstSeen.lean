import Santamon.Baseline.Processor

namespace Santamon.Baseline

open Santamon.Events Santamon.Rules Santamon.State Santamon.Correlation

/-- The pattern a baseline tracks for a message, when its filter holds and the message converts. -/
def patternOf (b : CompiledBaseline) (msg : SantaMessage) : Option String :=
  if b.program.matches (buildActivation msg) then
    match eventMapOf msg with
    | .ok m => some (extractPattern m b.rule.track)
    | .error _ => none
  else none

/-- The matches a call returns: none when it fails. -/
def matchesOf : Except String (List BaselineMatch) → List BaselineMatch
  | .ok ms => ms
  | .error _ => []

/-- How many matches carry the first-seen key `(r, p)`. -/
def keyCount (r p : String) (ms : List BaselineMatch) : Nat :=
  (ms.filter fun x => x.ruleID = r ∧ x.pattern = p).length

@[simp] theorem keyCount_nil (r p : String) : keyCount r p [] = 0 := rfl

@[simp] theorem keyCount_append (r p : String) (ms ms' : List BaselineMatch) :
    keyCount r p (ms ++ ms') = keyCount r p ms + keyCount r p ms' := by
  simp [keyCount]

theorem keyCount_eq_zero {r p : String} {ms : List BaselineMatch} (h : ∀ x ∈ ms, x.ruleID ≠ r) :
    keyCount r p ms = 0 := by
  simp only [keyCount, List.length_eq_zero, List.filter_eq_nil_iff, decide_eq_true_eq, not_and]
  exact fun x hx hr => absurd hr (h x hx)

theorem keyCount_pos {r p : String} {ms : List BaselineMatch} {x : BaselineMatch} (hx : x ∈ ms)
    (hr : x.ruleID = r) (hp : x.pattern = p) : 0 < keyCount r p ms :=
  List.length_pos_of_mem (List.mem_filter.mpr ⟨hx, by simp [hr, hp]⟩)

theorem patternOf_of_error {msg : SantaMessage} {err : String} (h : eventMapOf msg = .error err)
    (b : CompiledBaseline) : patternOf b msg = none := by
  unfold patternOf; split <;> simp [h]

variable {engine : Engine} {msg : SantaMessage} {b : CompiledBaseline} {db : DB} {now : Time}

theorem processRule_ok (hf : db.faults = []) {m : EventMap} (hm : eventMapOf msg = .ok m) :
    processRule engine msg (buildActivation msg) now b db =
      match patternOf b msg with
      | none => (.ok none, db)
      | some p =>
        if db.firstSeen b.rule.id p then (.ok none, db)
        else (.ok (some (.ofRule b.rule p msg (engine.isInLearningPeriod now b.rule))),
          db.addFirstSeen b.rule.id p) := by
  unfold processRule patternOf
  cases hb : b.program.matches (buildActivation msg)
  · rfl
  · simp only [Bool.not_true, hm, DB.isFirstSeen_ok hf, Except.map, ↓reduceIte]
    by_cases hs : db.firstSeen b.rule.id (extractPattern m b.rule.track) <;> simp [hs]

theorem processRule_of_error (engine : Engine) (now : Time) (b : CompiledBaseline) (db : DB)
    {err : String} (h : eventMapOf msg = .error err) :
    (processRule engine msg (buildActivation msg) now b db).2 = db ∧
      ∀ o, (processRule engine msg (buildActivation msg) now b db).1 ≠ .ok (some o) := by
  unfold processRule
  cases b.program.matches (buildActivation msg) <;> simp [h]

/-- What a fault-free pass over the baselines `bs` inserts and returns. -/
structure CallSpec (db : DB) (bs : List CompiledBaseline) (msg : SantaMessage)
    (ms : List BaselineMatch) (db' : DB) : Prop where
  faults : db'.faults = []
  seen : ∀ b ∈ bs, ∀ p,
    db'.firstSeen b.rule.id p = (db.firstSeen b.rule.id p || decide (patternOf b msg = some p))
  frame : ∀ r p, r ∉ bs.map (·.rule.id) → db'.firstSeen r p = db.firstSeen r p
  origin : ∀ x ∈ ms, x.message = msg ∧ x.ruleID ∈ bs.map (·.rule.id)
  count : ∀ b ∈ bs, ∀ p, keyCount b.rule.id p ms =
    (decide (patternOf b msg = some p) && !db.firstSeen b.rule.id p).toNat

theorem CallSpec.unchanged {bs : List CompiledBaseline} (hf : db.faults = [])
    (hp : ∀ b ∈ bs, patternOf b msg = none) : CallSpec db bs msg [] db :=
  ⟨hf, fun b hb p => by simp [hp b hb], fun _ _ _ => rfl, by simp, fun b hb p => by simp [hp b hb]⟩

theorem CallSpec.append {bs₁ bs₂ : List CompiledBaseline} {ms₁ ms₂ : List BaselineMatch}
    {db₁ db₂ : DB} (hd : ∀ b ∈ bs₁, b.rule.id ∉ bs₂.map (·.rule.id))
    (h₁ : CallSpec db bs₁ msg ms₁ db₁) (h₂ : CallSpec db₁ bs₂ msg ms₂ db₂) :
    CallSpec db (bs₁ ++ bs₂) msg (ms₁ ++ ms₂) db₂ := by
  have hd' : ∀ b ∈ bs₂, b.rule.id ∉ bs₁.map (·.rule.id) := fun b hb hb₁ => by
    obtain ⟨b', hb', he⟩ := List.mem_map.mp hb₁
    exact hd b' hb' (he ▸ List.mem_map_of_mem _ hb)
  refine ⟨h₂.faults, fun b hb p => ?_, fun r p hr => ?_, fun x hx => ?_, fun b hb p => ?_⟩
  · rcases List.mem_append.mp hb with hb | hb
    · rw [h₂.frame _ _ (hd b hb), h₁.seen b hb]
    · rw [h₂.seen b hb, h₁.frame _ _ (hd' b hb)]
  · simp only [List.map_append, List.mem_append, not_or] at hr
    rw [h₂.frame _ _ hr.2, h₁.frame _ _ hr.1]
  · rcases List.mem_append.mp hx with hx | hx
    · exact ⟨(h₁.origin x hx).1, by simp [(h₁.origin x hx).2]⟩
    · exact ⟨(h₂.origin x hx).1, by simp [(h₂.origin x hx).2]⟩
  · have z₂ (hb : b.rule.id ∉ bs₂.map (·.rule.id)) : keyCount b.rule.id p ms₂ = 0 :=
      keyCount_eq_zero fun x hx he => hb (he ▸ (h₂.origin x hx).2)
    have z₁ (hb : b.rule.id ∉ bs₁.map (·.rule.id)) : keyCount b.rule.id p ms₁ = 0 :=
      keyCount_eq_zero fun x hx he => hb (he ▸ (h₁.origin x hx).2)
    rcases List.mem_append.mp hb with hb | hb
    · rw [keyCount_append, h₁.count b hb, z₂ (hd b hb), Nat.add_zero]
    · rw [keyCount_append, h₂.count b hb, z₁ (hd' b hb), h₁.frame _ _ (hd' b hb), Nat.zero_add]

theorem processRule_spec (engine : Engine) (now : Time) (b : CompiledBaseline)
    (hf : db.faults = []) {m : EventMap} (hm : eventMapOf msg = .ok m) :
    ∃ o db', processRule engine msg (buildActivation msg) now b db = (.ok o, db') ∧
      CallSpec db [b] msg o.toList db' := by
  rw [processRule_ok hf hm]
  cases hp : patternOf b msg with
  | none => exact ⟨none, db, rfl, CallSpec.unchanged hf (by simpa using hp)⟩
  | some p =>
    by_cases hs : db.firstSeen b.rule.id p
    · refine ⟨none, db, by simp [hs], hf, ?_, fun _ _ _ => rfl, by simp, ?_⟩ <;>
        intro b' hb' q <;> obtain rfl := List.mem_singleton.mp hb' <;>
        rcases eq_or_ne p q with rfl | hq <;> simp [*]
    · refine ⟨some (.ofRule b.rule p msg (engine.isInLearningPeriod now b.rule)),
        db.addFirstSeen b.rule.id p, by simp [hs], hf, ?_, fun r q hr => ?_,
        by simp [BaselineMatch.ofRule], ?_⟩
      · intro b' hb' q
        obtain rfl := List.mem_singleton.mp hb'
        rcases eq_or_ne q p with rfl | hq
        · simp [DB.addFirstSeen_firstSeen, hp]
        · simp [DB.addFirstSeen_firstSeen, hp, hq, hq.symm]
      · simp only [List.map_cons, List.map_nil, List.mem_singleton] at hr
        simp [DB.addFirstSeen_firstSeen, hr]
      · intro b' hb' q
        obtain rfl := List.mem_singleton.mp hb'
        rcases eq_or_ne p q with rfl | hq <;> simp [keyCount, BaselineMatch.ofRule, *]

variable {clock : Nat → Time}

theorem processLoop_spec (engine : Engine) (clock : Nat → Time) {bs : List CompiledBaseline}
    (hf : db.faults = []) {m : EventMap}
    (hm : eventMapOf msg = .ok m) (hd : (bs.map (·.rule.id)).Nodup) :
    ∃ ms db', processLoop engine msg (buildActivation msg) clock bs db = (.ok ms, db') ∧
      CallSpec db bs msg ms db' := by
  induction bs generalizing clock db with
  | nil => exact ⟨[], db, rfl, CallSpec.unchanged hf (by simp)⟩
  | cons b bs ih =>
    rw [List.map_cons, List.nodup_cons] at hd
    obtain ⟨o, db₁, hstep, h₁⟩ := processRule_spec engine (clock 0) b hf hm
    obtain ⟨ms, db₂, hloop, h₂⟩ := ih (fun i => clock (i + 1)) h₁.faults hd.2
    refine ⟨o.toList ++ ms, db₂, by simp [processLoop, hstep, hloop], ?_⟩
    exact CallSpec.append (by simpa using hd.1) h₁ h₂

theorem processLoop_of_error (engine : Engine) (clock : Nat → Time) (bs : List CompiledBaseline)
    (db : DB) {err : String}
    (hm : eventMapOf msg = .error err) :
    (processLoop engine msg (buildActivation msg) clock bs db).2 = db ∧
      matchesOf (processLoop engine msg (buildActivation msg) clock bs db).1 = [] := by
  induction bs generalizing clock with
  | nil => exact ⟨rfl, rfl⟩
  | cons b bs ih =>
    obtain ⟨hdb, hno⟩ := processRule_of_error engine (clock 0) b db hm
    rcases hstep : processRule engine msg (buildActivation msg) (clock 0) b db with ⟨r, db₁⟩
    rw [hstep] at hdb hno
    subst hdb
    cases r with
    | error e => simp [processLoop, hstep, matchesOf]
    | ok o =>
      cases o with
      | some o => exact absurd rfl (hno o)
      | none =>
        obtain ⟨ih₁, ih₂⟩ := ih (fun i => clock (i + 1))
        dsimp only at ih₁ ih₂
        rcases h : processLoop engine msg (buildActivation msg) (fun i => clock (i + 1)) bs db₁ with
          ⟨_ | _, _⟩ <;> rw [h] at ih₁ ih₂ <;> simp only [processLoop, hstep, h] <;> exact ⟨ih₁, ih₂⟩

theorem process_spec (engine : Engine) (msg : SantaMessage) (clock : Nat → Time)
    {bs : List CompiledBaseline} (hf : db.faults = [])
    (hd : (bs.map (·.rule.id)).Nodup) :
    CallSpec db bs msg (matchesOf (process db msg bs engine clock).1)
      (process db msg bs engine clock).2 := by
  unfold process
  cases bs with
  | nil => exact CallSpec.unchanged hf (by simp)
  | cons b bs =>
    simp only [List.isEmpty_cons, Bool.false_eq_true, ↓reduceIte]
    cases hm : eventMapOf msg with
    | ok m =>
      obtain ⟨ms, db', h, hs⟩ := processLoop_spec engine clock hf hm hd
      rw [h]; exact hs
    | error err =>
      obtain ⟨h₁, h₂⟩ := processLoop_of_error engine clock (b :: bs) db hm
      rw [h₁, h₂]
      exact CallSpec.unchanged hf fun b _ => patternOf_of_error hm b

/-- Successive `Process` calls over an event stream; a failing call contributes no match. -/
def run (engine : Engine) (bs : List CompiledBaseline) :
    DB → List (SantaMessage × (Nat → Time)) → List BaselineMatch × DB
  | db, [] => ([], db)
  | db, (msg, clock) :: rest =>
    let call := process db msg bs engine clock
    let tail := run engine bs call.2 rest
    (matchesOf call.1 ++ tail.1, tail.2)

theorem run_keyCount (db : DB) {bs : List CompiledBaseline} (hd : (bs.map (·.rule.id)).Nodup) (hb : b ∈ bs)
    (p : String) (stream : List (SantaMessage × (Nat → Time))) (hf : db.faults = []) :
    keyCount b.rule.id p (run engine bs db stream).1 =
      (!db.firstSeen b.rule.id p && stream.any (patternOf b ·.1 = some p)).toNat := by
  induction stream generalizing db with
  | nil => simp [run]
  | cons e rest ih =>
    obtain ⟨msg, clock⟩ := e
    have h := process_spec engine msg clock hf hd
    simp only [run, keyCount_append, h.count b hb p, ih _ h.faults, h.seen b hb p]
    cases hs : db.firstSeen b.rule.id p <;> by_cases hq : patternOf b msg = some p <;>
      simp [hq]

theorem run_find (db : DB) {bs : List CompiledBaseline} (hd : (bs.map (·.rule.id)).Nodup) (hb : b ∈ bs)
    (p : String) (stream : List (SantaMessage × (Nat → Time))) (hf : db.faults = []) :
    ∀ x ∈ (run engine bs db stream).1, x.ruleID = b.rule.id → x.pattern = p →
      (stream.find? fun e => patternOf b e.1 = some p).map (·.1) = some x.message := by
  induction stream generalizing db with
  | nil => simp [run]
  | cons e rest ih =>
    obtain ⟨msg, clock⟩ := e
    have h := process_spec engine msg clock hf hd
    intro x hx hr hp
    rcases List.mem_append.mp hx with hx | hx
    · have hpos := keyCount_pos hx hr hp
      rw [h.count b hb p] at hpos
      have hq : patternOf b msg = some p := by
        have := Nat.pos_iff_ne_zero.mp hpos
        simp only [ne_eq, Bool.toNat_eq_zero, Bool.not_eq_false, Bool.and_eq_true,
          decide_eq_true_eq] at this
        exact this.1
      simp [hq, (h.origin x hx).1]
    · by_cases hq : patternOf b msg = some p
      · have hpos := keyCount_pos hx hr hp
        rw [run_keyCount _ hd hb p rest h.faults, h.seen b hb p] at hpos
        simp [hq] at hpos
      · simpa [hq] using ih _ h.faults x hx hr hp

theorem baseline_exactly_once (engine : Engine) {bs : List CompiledBaseline}
    (hd : (bs.map (·.rule.id)).Nodup) (stream : List (SantaMessage × (Nat → Time)))
    {b : CompiledBaseline} (hb : b ∈ bs) (p : String) :
    keyCount b.rule.id p (run engine bs DB.empty stream).1 =
        (if ∃ e ∈ stream, patternOf b e.1 = some p then 1 else 0) ∧
      ∀ x ∈ (run engine bs DB.empty stream).1, x.ruleID = b.rule.id → x.pattern = p →
        (stream.find? fun e => patternOf b e.1 = some p).map (·.1) = some x.message :=
  ⟨by
    rw [run_keyCount DB.empty hd hb p stream rfl]
    by_cases h : ∃ e ∈ stream, patternOf b e.1 = some p
    · rw [if_pos h]; simpa [DB.empty] using h
    · rw [if_neg h]; simpa [DB.empty] using h,
    run_find DB.empty hd hb p stream rfl⟩

/-- A baseline whose filter always holds, tracking `kind`. -/
def trackKind (id : String) : CompiledBaseline :=
  ⟨⟨id, "first " ++ id, "", "true", ["kind"], "low", [], true, 0⟩, ⟨fun _ => .ok (.bool true)⟩⟩

/-- An engine with no rules and a CEL environment that compiles nothing. -/
def idleEngine : Engine := ⟨[], [], [], ⟨fun _ => .error "", fun _ => .error ""⟩, 0⟩

/-- A message with no field set. -/
def blankMessage : SantaMessage := ⟨none, none, none, none, .unset⟩

/-- A clock that reads 0 at every rule. -/
def stoppedClock : Nat → Time := fun _ => 0

/-- Two calls with `blankMessage`, so that both give one pattern. -/
def blankTwice : List (SantaMessage × (Nat → Time)) :=
  [(blankMessage, stoppedClock), (blankMessage, stoppedClock)]

theorem baseline_exactly_once_blankTwice :
    keyCount "B1" "kind=unknown"
        (run idleEngine [trackKind "B1", trackKind "B2"] DB.empty blankTwice).1 = 1 ∧
      ([trackKind "B1", trackKind "B2"].map (·.rule.id)).Nodup ∧
      trackKind "B1" ∈ [trackKind "B1", trackKind "B2"] ∧
      (keyCount "B1" "kind=unknown"
          (run idleEngine [trackKind "B1", trackKind "B2"] DB.empty blankTwice).1 =
        (if ∃ e ∈ blankTwice, patternOf (trackKind "B1") e.1 = some "kind=unknown" then 1 else 0) ∧
      ∀ x ∈ (run idleEngine [trackKind "B1", trackKind "B2"] DB.empty blankTwice).1,
        x.ruleID = "B1" → x.pattern = "kind=unknown" →
        (blankTwice.find? fun e =>
          patternOf (trackKind "B1") e.1 = some "kind=unknown").map (·.1) = some x.message) :=
  ⟨by decide, by decide, List.mem_cons_self _ _,
    baseline_exactly_once idleEngine (by decide) _ (List.mem_cons_self (trackKind "B1") _)
      "kind=unknown"⟩

theorem process_error_keeps_key :
    DB.empty.firstSeen "B1" "kind=unknown" = false ∧
      (matchesOf (process { DB.empty with faults := [false, true] } blankMessage
        [trackKind "B1", trackKind "B2"] idleEngine stoppedClock).1).isEmpty ∧
      (process { DB.empty with faults := [false, true] } blankMessage
        [trackKind "B1", trackKind "B2"] idleEngine stoppedClock).2.firstSeen "B1" "kind=unknown" =
        true := by
  decide

end Santamon.Baseline
