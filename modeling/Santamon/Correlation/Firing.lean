import Santamon.Correlation.Invariant

namespace Santamon.Correlation

open Santamon.Events Santamon.Rules Santamon.State

variable {wm : WindowManager} {eventMap : EventMap} {act : Activation}

theorem processLoop_append (clock : Nat → Time) (xs ys : List CompiledCorrelation) (db : DB) :
    wm.processLoop eventMap act clock (xs ++ ys) db =
      match wm.processLoop eventMap act clock xs db with
      | (.error err, db') => (.error err, db')
      | (.ok ms, db') =>
        match wm.processLoop eventMap act (fun i => clock (i + xs.length)) ys db' with
        | (.error err, db'') => (.error err, db'')
        | (.ok ms', db'') => (.ok (ms ++ ms'), db'') := by
  induction xs generalizing clock db with
  | nil =>
    rw [List.nil_append]
    change _ = match wm.processLoop eventMap act clock ys db with
      | (.error err, db'') => (.error err, db'') | (.ok ms', db'') => (.ok ([] ++ ms'), db'')
    rcases wm.processLoop eventMap act clock ys db with ⟨_ | _, _⟩ <;> rfl
  | cons c xs ih =>
    rw [List.cons_append, WindowManager.processLoop.eq_2, WindowManager.processLoop.eq_2]
    rcases wm.processRule eventMap act (clock 0) c db with ⟨_ | o, db₁⟩
    · rfl
    · dsimp only
      rw [ih]
      rcases wm.processLoop eventMap act (fun i => clock (i + 1)) xs db₁ with ⟨_ | ms, db₂⟩
      · rfl
      · dsimp only
        simp only [List.length_cons, Nat.add_assoc]
        rcases wm.processLoop eventMap act (fun i => clock (i + (xs.length + 1))) ys db₂ with
          ⟨_ | ms', db₃⟩
        · rfl
        · simp

theorem processLoop_frame (wm : WindowManager) (eventMap : EventMap) (act : Activation)
    {cs : List CompiledCorrelation} {rid : String}
    (hc : ∀ c ∈ cs, c.rule.id ≠ rid) (clock : Nat → Time) {db : DB} (hf : db.faults = []) :
    ∃ ms db', wm.processLoop eventMap act clock cs db = (.ok ms, db') ∧ db'.faults = [] ∧
      db'.windows rid = db.windows rid ∧ ∀ m ∈ ms, m.ruleID ≠ rid := by
  have hstep : ∀ now c d, c ∈ cs → d.windows rid = db.windows rid → d.faults = [] →
      (wm.processRule eventMap act now c d).2.windows rid = db.windows rid ∧
        ∀ m, (wm.processRule eventMap act now c d).1 = .ok (some m) → m.ruleID ≠ rid := by
    intro now c d hcs hp hf
    have hne := hc c hcs
    cases hm : c.program.matches act
    · rw [processRule_of_not_matches hm]; exact ⟨hp, by simp⟩
    · rw [processRule_ok hf hm]; dsimp only
      have hw (xs : List EventMap) :
          (d.setWindow c.rule.id (extractGroupKey eventMap c.rule.groupBy) xs).windows rid =
            db.windows rid := by
        funext g; rw [DB.setWindow_other _ _ (fun h => hne h.1.symm), hp]
      split
      · exact ⟨hw _, by rintro m ⟨⟩; exact hne⟩
      · exact ⟨hw _, by simp⟩
  obtain ⟨ms, db', h, hf', hp, hq⟩ := processLoop_preserves hstep clock hf rfl
  exact ⟨ms, db', h, hf', hp, fun m hm => (hq m hm).choose_spec.choose_spec.2⟩

theorem processLoop_around (wm : WindowManager) (eventMap : EventMap) (act : Activation)
    {pre post : List CompiledCorrelation} {r : CompiledCorrelation}
    (hpre : ∀ c ∈ pre, c.rule.id ≠ r.rule.id) (hpost : ∀ c ∈ post, c.rule.id ≠ r.rule.id)
    (clock : Nat → Time) {db : DB} (hf : db.faults = []) :
    ∃ db₁ ms₁, db₁.faults = [] ∧ db₁.windows r.rule.id = db.windows r.rule.id ∧
      (∀ m ∈ ms₁, m.ruleID ≠ r.rule.id) ∧
      ∀ o db₂, wm.processRule eventMap act (clock pre.length) r db₁ = (.ok o, db₂) →
        db₂.faults = [] → ∃ ms₂ db₃,
          wm.processLoop eventMap act clock (pre ++ r :: post) db =
            (.ok (ms₁ ++ o.toList ++ ms₂), db₃) ∧
          db₃.faults = [] ∧ db₃.windows r.rule.id = db₂.windows r.rule.id ∧
          ∀ m ∈ ms₂, m.ruleID ≠ r.rule.id := by
  obtain ⟨ms₁, db₁, h₁, hf₁, hw₁, hm₁⟩ := processLoop_frame wm eventMap act hpre clock hf
  refine ⟨db₁, ms₁, hf₁, hw₁, hm₁, fun o db₂ h₂ hf₂ => ?_⟩
  obtain ⟨ms₂, db₃, h₃, hf₃, hw₃, hm₃⟩ :=
    processLoop_frame wm eventMap act hpost (fun i => clock (i + 1 + pre.length)) hf₂
  refine ⟨ms₂, db₃, ?_, hf₃, hw₃, hm₃⟩
  rw [processLoop_append, h₁]
  simp only [WindowManager.processLoop, Nat.zero_add, h₂, h₃, List.append_assoc]

/-- The map message `msg` stores into bucket `(r.rule.id, g)`, if it touches that bucket. -/
def touchedMap (r : CompiledCorrelation) (g : String) (msg : SantaMessage) : Option EventMap :=
  match eventMapOf msg with
  | .ok e =>
    if r.program.matches (buildActivation msg) ∧ extractGroupKey e r.rule.groupBy = g then some e
    else none
  | .error _ => none

/-- The calls of a stream that touch bucket `(r.rule.id, g)`. -/
def touching (r : CompiledCorrelation) (g : String) (stream : List (SantaMessage × (Nat → Time))) :
    List (SantaMessage × (Nat → Time)) :=
  stream.filter fun x => (touchedMap r g x.1).isSome

/-- What one call shows of bucket `(rid, g)`: its first match, and the bucket after the call. -/
def bucketOutcome (rid g : String) (ms : List WindowMatch) (db : DB) :
    Option (Nat × List EventMap) × List EventMap :=
  ((ms.find? fun m => m.ruleID = rid ∧ m.groupKey = g).map fun m => (m.count, m.events),
    db.windows rid g)

/-- Rule `rule`'s step on its bucket holding `xs`, for the touching map `e` at reading `now`. -/
def bucketStep (wm : WindowManager) (now : Time) (rule : CorrelationRule) (xs : List EventMap)
    (e : EventMap) : Option (Nat × List EventMap) × List EventMap :=
  let recent := wm.recentEvents now rule (xs ++ [e])
  if rule.threshold ≤ countEvents recent rule then (some (countEvents recent rule, recent), [])
  else (none, recent)

theorem bucketOutcome_around {rid g : String} {ms₁ ms₂ : List WindowMatch}
    (h₁ : ∀ m ∈ ms₁, m.ruleID ≠ rid) (o : Option WindowMatch) (h₂ : ∀ m ∈ ms₂, m.ruleID ≠ rid)
    (db : DB) :
    bucketOutcome rid g (ms₁ ++ o.toList ++ ms₂) db =
      ((o.filter fun m => m.ruleID = rid ∧ m.groupKey = g).map fun m => (m.count, m.events),
        db.windows rid g) := by
  have hn (ms : List WindowMatch) (h : ∀ m ∈ ms, m.ruleID ≠ rid) :
      ms.find? (fun m => m.ruleID = rid ∧ m.groupKey = g) = none :=
    List.find?_eq_none.mpr fun m hm => by simp [h m hm]
  rw [bucketOutcome, List.find?_append, List.find?_append, hn ms₁ h₁, hn ms₂ h₂]
  cases o <;> simp [Option.filter]

theorem process_maxEvents (wm : WindowManager) (db : DB) (msg : SantaMessage)
    (rs : List CompiledCorrelation) (clock : Nat → Time) :
    (wm.process db msg rs clock).2.2.maxEvents = wm.maxEvents := by
  unfold WindowManager.process
  repeat' split
  all_goals rfl

theorem process_bucketOutcome {pre post : List CompiledCorrelation} {r : CompiledCorrelation}
    (hd : ((pre ++ r :: post).map (·.rule.id)).Nodup) (wm : WindowManager) {db : DB}
    (hf : db.faults = []) (msg : SantaMessage) (clock : Nat → Time) (g : String) :
    (wm.process db msg (pre ++ r :: post) clock).2.1.faults = [] ∧
      bucketOutcome r.rule.id g (matchesOf (wm.process db msg (pre ++ r :: post) clock).1)
        (wm.process db msg (pre ++ r :: post) clock).2.1 =
      match touchedMap r g msg with
      | none => (none, db.windows r.rule.id g)
      | some e => bucketStep wm (clock pre.length) r.rule (db.windows r.rule.id g) e := by
  rw [List.map_append, List.map_cons, List.nodup_middle, List.nodup_cons, List.mem_append,
    not_or] at hd
  have hpre : ∀ c ∈ pre, c.rule.id ≠ r.rule.id := fun c hc h => hd.1.1 (List.mem_map.mpr ⟨c, hc, h⟩)
  have hpost : ∀ c ∈ post, c.rule.id ≠ r.rule.id :=
    fun c hc h => hd.1.2 (List.mem_map.mpr ⟨c, hc, h⟩)
  cases he : eventMapOf msg with
  | error err =>
    obtain ⟨h₁, h₂⟩ := process_of_error wm db (pre ++ r :: post) clock he
    simp [touchedMap, he, bucketOutcome, h₁, h₂, hf]
  | ok e =>
    have hp := process_eq_processLoop wm db (pre ++ r :: post) clock he
    obtain ⟨db₁, ms₁, hf₁, hw₁, hm₁, hk⟩ :=
      processLoop_around wm e (buildActivation msg) hpre hpost clock hf
    have finish (o : Option WindowMatch) (db₂ : DB)
        (h₂ : wm.processRule e (buildActivation msg) (clock pre.length) r db₁ = (.ok o, db₂))
        (hf₂ : db₂.faults = []) :
        (wm.process db msg (pre ++ r :: post) clock).2.1.faults = [] ∧
          bucketOutcome r.rule.id g (matchesOf (wm.process db msg (pre ++ r :: post) clock).1)
            (wm.process db msg (pre ++ r :: post) clock).2.1 =
          ((o.filter fun m => m.ruleID = r.rule.id ∧ m.groupKey = g).map
            fun m => (m.count, m.events), db₂.windows r.rule.id g) := by
      obtain ⟨ms₂, db₃, h₃, hf₃, hw₃, hm₃⟩ := hk o db₂ h₂ hf₂
      rw [h₃, Prod.mk.injEq] at hp
      rw [hp.1, hp.2, matchesOf, bucketOutcome_around hm₁ o hm₃, hw₃]
      exact ⟨hf₃, rfl⟩
    cases hm : r.program.matches (buildActivation msg)
    · obtain ⟨h, hs⟩ := finish none db₁ (processRule_of_not_matches hm) hf₁
      simp [h, hs, touchedMap, he, hm, hw₁]
    · have h₂ : wm.processRule e (buildActivation msg) (clock pre.length) r db₁ = _ :=
        processRule_ok hf₁ hm
      have ht : touchedMap r g msg =
          if extractGroupKey e r.rule.groupBy = g then some e else none := by
        simp [touchedMap, he, hm]
      dsimp only at h₂
      rw [ht]
      by_cases hg : extractGroupKey e r.rule.groupBy = g
      · rw [hg, hw₁] at h₂
        rw [if_pos hg]
        split at h₂ <;> rename_i hT <;> obtain ⟨h, hs⟩ := finish _ _ h₂ hf₁
        · rw [hs, Option.filter_some]
          simp [h, bucketStep, hT, WindowMatch.ofRule]
        · simp [h, hs, bucketStep, hT]
      · rw [if_neg hg]
        have hng : ¬(r.rule.id = r.rule.id ∧ g = extractGroupKey e r.rule.groupBy) :=
          fun h => hg h.2.symm
        split at h₂ <;> obtain ⟨h, hs⟩ := finish _ _ h₂ hf₁
        · rw [hs, Option.filter_some]
          simp [h, WindowMatch.ofRule, hg, DB.setWindow_other _ _ hng, hw₁]
        · simp [h, hs, DB.setWindow_other _ _ hng, hw₁]

/-- Successive `Process` calls: the matches each call returns and the store after it. -/
def WindowManager.trace (rules : List CompiledCorrelation) :
    WindowManager → DB → List (SantaMessage × (Nat → Time)) → List (List WindowMatch × DB)
  | _, _, [] => []
  | wm, db, (msg, clock) :: rest =>
    (matchesOf (wm.process db msg rules clock).1, (wm.process db msg rules clock).2.1) ::
      WindowManager.trace rules (wm.process db msg rules clock).2.2
        (wm.process db msg rules clock).2.1 rest

theorem touchedMap_eq_some {r : CompiledCorrelation} {g : String} {msg : SantaMessage}
    {e : EventMap} (h : touchedMap r g msg = some e) : eventMapOf msg = .ok e := by
  unfold touchedMap at h
  split at h
  · split at h
    · cases h; assumption
    · cases h
  · cases h

section Run

variable {pre post : List CompiledCorrelation} {r : CompiledCorrelation}
  (hd : ((pre ++ r :: post).map (·.rule.id)).Nodup) {g : String}

end Run

theorem eventMapOf_event_time {msg : SantaMessage} {e : EventMap} {ts : Timestamp}
    (he : eventMapOf msg = .ok e) (ht : msg.eventTime = some ts) :
    e.field? "event_time" = some (.time ts.asTime) := by
  unfold eventMapOf at he
  cases hm : toMap msg with
  | error err => rw [hm] at he; cases he
  | ok m =>
    rw [hm] at he; cases he
    exact buildActivation_event_time msg m ht

/-- Two calls, each with a message stamped at the epoch and read at the epoch. -/
def epochPair : List (SantaMessage × (Nat → Time)) :=
  [(epochMessage, fun _ => 0), (epochMessage, fun _ => 0)]

end Santamon.Correlation
