import Santamon.Signals.Sample
import Santamon.Events.Args

namespace Santamon.Signals

open Santamon.Events Santamon.Correlation

theorem putNonEmpty_field?_ne (ctx : EventMap) {k k' : String} (v : String) (h : k' ≠ k) :
    (putNonEmpty ctx k v).field? k' = ctx.field? k' := by
  unfold putNonEmpty
  split
  · rfl
  · exact EventMap.field?_put_ne _ _ h

theorem putNonEmpty_field?_self (ctx : EventMap) (k v : String) :
    (putNonEmpty ctx k v).field? k = if v = "" then ctx.field? k else some (.str v) := by
  unfold putNonEmpty
  split <;> simp

theorem appendMessageContext_target_team (ctx : EventMap) (msg : SantaMessage) :
    (appendMessageContext ctx msg).field? "target_team" =
      if targetTeam msg = "" then ctx.field? "target_team" else some (.str (targetTeam msg)) := by
  simp [appendMessageContext, putNonEmpty_field?_ne, putNonEmpty_field?_self, EventMap.field?_put_ne]

theorem fromWindowMatch_target_team (g : Generator) (m : WindowMatch) (b : String) (now : Time) :
    (g.fromWindowMatch m b now).context.field? "target_team" = none := by
  simp only [Generator.fromWindowMatch]
  split
  · simp only [sampleContext, EventMap.field?_put_ne, putNonEmpty_field?_ne, ne_eq,
      String.reduceEq, not_false_eq_true]
    rfl
  · rfl

theorem fromWindowMatch_context (g : Generator) (m : WindowMatch) (b : String) (now : Time)
    {sample : EventMap} (hl : m.events.getLast? = some sample) :
    (g.fromWindowMatch m b now).context = sampleContext [("group_key", .str m.groupKey),
      ("event_count", .num m.count), ("window_type", .str "correlation")] sample := by
  simp only [Generator.fromWindowMatch, hl]

/-- An execution whose target is signed by team `TEAM1`; every other field is unset. -/
def teamExecution : Execution :=
  ⟨none, some ⟨none, none, none, none, none, none, none, none, some ⟨some "TEAM1", none⟩, none⟩,
    none, [], []⟩

def teamMessage : SantaMessage := ⟨none, none, some ⟨0, 0⟩, none, .execution teamExecution⟩

/-- The map `WindowManager.Process` stores for `teamMessage`. -/
def teamMap : EventMap :=
  match eventMapOf teamMessage with
  | .ok m => m
  | .error _ => []

/-- The match of a correlation rule whose window holds `teamMap` alone. -/
def teamWindow : WindowMatch :=
  ⟨"C1", "", "", [], "", 1, [teamMap], "_global", ⟨"C1", "", "", "true", 0, [], "", 1, "", [], true⟩⟩

theorem window_context_agrees (g : Generator) (m : WindowMatch) (b : String) (now : Time)
    {msg : SantaMessage} {sample : EventMap} (hs : eventMapOf msg = .ok sample)
    (hl : m.events.getLast? = some sample) (k : String)
    (hk : k ∈ ["actor_path", "actor_team", "actor_signing_id", "target_sha256"] ∨
      k = "target_path" ∧ (∀ x, msg.event ≠ .xprotect x) ∨
      k = "decision" ∧ (∀ e, msg.event = .execution e → e.decision.isSome) ∧
        (∀ f, msg.event = .fileAccess f → f.policyDecision.isSome) ∨
      k = "kind" ∧ (kind msg ∈ kindKeys ∨ msg.event = .unset)) :
    (g.fromWindowMatch m b now).context.field? k = (appendMessageContext [] msg).field? k := by
  have team := firstField_actor_code_signature hs "team_id" _ (.inl ⟨rfl, rfl⟩)
  have signing := firstField_actor_code_signature hs "signing_id" _ (.inr ⟨rfl, rfl⟩)
  simp only [String.reduceAppend] at team signing
  rw [fromWindowMatch_context g m b now hl]
  simp only [List.mem_cons, List.not_mem_nil, or_false] at hk
  rcases hk with (rfl | rfl | rfl | rfl) | ⟨rfl, hx⟩ | ⟨rfl, hd, hf⟩ | ⟨rfl, hk⟩ <;>
    simp only [sampleContext, appendMessageContext, EventMap.field?_put_ne,
      EventMap.field?_put_self, putNonEmpty_field?_ne, putNonEmpty_field?_self, ne_eq,
      String.reduceEq, not_false_eq_true]
  · rw [firstField_actor_path hs]
    rfl
  · rw [team]
    rfl
  · rw [signing]
    rfl
  · rw [firstField_target_sha256 hs]
    rfl
  · rw [firstField_target_path_of_ne hs hx]
    rfl
  · rw [firstField_decision_of_set hs hd hf]
    rfl
  · rw [kindFromMap_sample_of_mem hs hk]

/-- An execution of `/bin/ls` signed by team `TEAM1`. -/
def lsExecution : Execution :=
  ⟨none, some ⟨none, none, none, some ⟨some "/bin/ls", none⟩, none, none, none, none,
    some ⟨some "TEAM1", none⟩, none⟩, none, [], []⟩

def lsMessage : SantaMessage := ⟨none, none, some ⟨0, 0⟩, none, .execution lsExecution⟩

def lsMap : EventMap :=
  match eventMapOf lsMessage with
  | .ok m => m
  | .error _ => []

def lsWindow : WindowMatch := { teamWindow with events := [lsMap] }

theorem window_context_agrees_ls :
    eventMapOf lsMessage = .ok lsMap ∧ lsWindow.events.getLast? = some lsMap ∧
      (appendMessageContext [] lsMessage).field? "target_path" = some (.str "/bin/ls") ∧
      ((⟨"host", none⟩ : Generator).fromWindowMatch lsWindow "" 0).context.field? "target_path" =
        (appendMessageContext [] lsMessage).field? "target_path" :=
  have hs : eventMapOf lsMessage = .ok lsMap := rfl
  have hl : lsWindow.events.getLast? = some lsMap := rfl
  ⟨hs, hl, rfl, window_context_agrees _ _ _ _ hs hl _ (.inr (.inl ⟨rfl, fun _ h => by cases h⟩))⟩

theorem eventMapOf_executionArgs {msg : SantaMessage} {e : Execution}
    (he : msg.event = .execution e) {em : EventMap} (hm : eventMapOf msg = .ok em) :
    executionArgs em = some (.list ((decodedArgs msg).map .str)) := by
  unfold eventMapOf toMap at hm
  rw [he] at hm
  split at hm
  · rename_i ev _ _ hev
    simp only [Event.toJson?, Option.bind_eq_bind, Option.bind_eq_some, Option.pure_def,
      Option.some.injEq] at hev
    obtain ⟨tgt, -, rfl⟩ := hev
    cases hm
    unfold executionArgs
    rw [buildActivation_field? _ _ (by decide)]
    cases e.decision <;>
      simp [decodeExecutionStringLists, EventMap.field?, lookup_fields_append_of_ne, optEnum,
        List.lookup_cons, decodeBase64List_bytesList, decodedArgs, he, EventMap.put]
  · exact nomatch hm

theorem putExtraField_args {em : EventMap} {A : Value} (hA : executionArgs em = some A)
    (ctx : EventMap) (f : String) :
    (ctx.field? "execution.args" = some A ∨ f ≠ "" ∧ trimPrefix f "event." = "execution.args") →
      (putExtraField em ctx f).field? "execution.args" = some A := by
  intro h
  unfold putExtraField
  split
  · next hf => exact h.resolve_right (fun h' => h'.1 hf)
  · by_cases hc : trimPrefix f "event." = "execution.args"
    · simp only [hc, if_true, hA, EventMap.field?_put_self]
    · simp only [hc, if_false]
      rw [putNonEmpty_field?_ne _ _ (Ne.symm hc)]
      exact h.resolve_right (fun h' => hc h'.2)

theorem foldl_putExtraField_args {em : EventMap} {A : Value} (hA : executionArgs em = some A)
    (fields : List String) (ctx : EventMap)
    (h : ctx.field? "execution.args" = some A ∨
      ∃ f ∈ fields, f ≠ "" ∧ trimPrefix f "event." = "execution.args") :
    (fields.foldl (putExtraField em) ctx).field? "execution.args" = some A := by
  induction fields generalizing ctx with
  | nil => simpa using h
  | cons f fields ih =>
    refine ih _ ?_
    by_cases hf : f ≠ "" ∧ trimPrefix f "event." = "execution.args"
    · exact .inl (putExtraField_args hA ctx f (.inr hf))
    · rcases h with h | ⟨f', hf', h'⟩
      · exact .inl (putExtraField_args hA ctx f (.inl h))
      · rcases List.mem_cons.mp hf' with rfl | hf'
        · exact absurd h' hf
        · exact .inr ⟨f', hf', h'⟩

theorem fromRuleMatch_execution_args (g : Generator) (m : Rules.Match) (now : Time) {e : Execution}
    (he : m.message.event = .execution e) {em : EventMap} (hm : eventMapOf m.message = .ok em)
    (hf : ∃ f ∈ m.rule.extraContext, f ≠ "" ∧ trimPrefix f "event." = "execution.args") :
    (g.fromRuleMatch m now).context.field? "execution.args" =
      some (.list ((decodedArgs m.message).map .str)) := by
  have hne : m.rule.extraContext.isEmpty = false := by
    obtain ⟨f, hf, -⟩ := hf
    cases hx : m.rule.extraContext with
    | nil => rw [hx] at hf; cases hf
    | cons _ _ => rfl
  have hargs := foldl_putExtraField_args (eventMapOf_executionArgs he hm) m.rule.extraContext
  simp only [Generator.fromRuleMatch, hne, hm, Bool.not_false, Bool.or_true, if_true,
    Except.toOption]
  split
  · rw [EventMap.field?_put_ne _ _ (by decide)]
    exact hargs _ (.inr hf)
  · exact hargs _ (.inr hf)

/-- A rule that names `event.execution.args`, and its match for `binaryMessage`. -/
def argsRule : Rules.Rule :=
  ⟨"R1", "args", "", "true", "low", [], true, ["event.execution.args"], false, false⟩

def argsMatch : Rules.Match := ⟨"R1", "args", "low", [], binaryMessage, 0, argsRule⟩

theorem fromRuleMatch_execution_args_binary :
    argsMatch.message.event = .execution binaryExecution ∧
      eventMapOf argsMatch.message = .ok ((eventMapOf binaryMessage).toOption.getD []) ∧
      (∃ f ∈ argsMatch.rule.extraContext, f ≠ "" ∧ trimPrefix f "event." = "execution.args") ∧
      ((⟨"host", none⟩ : Generator).fromRuleMatch argsMatch 0).context.field? "execution.args" =
        some (.list ((decodedArgs argsMatch.message).map .str)) :=
  have hm : eventMapOf argsMatch.message = .ok ((eventMapOf binaryMessage).toOption.getD []) := rfl
  have hf : ∃ f ∈ argsMatch.rule.extraContext, f ≠ "" ∧
      trimPrefix f "event." = "execution.args" := by decide
  ⟨rfl, hm, hf, fromRuleMatch_execution_args _ argsMatch 0 rfl hm hf⟩

theorem window_context_drops_target_team :
    eventMapOf teamMessage = .ok teamMap ∧ teamWindow.events.getLast? = some teamMap ∧
      (appendMessageContext [] teamMessage).field? "target_team" = some (.str "TEAM1") ∧
      (appendMessageContext [] teamMessage).field? "decision" = some (.str "DECISION_UNKNOWN") ∧
      ((⟨"host", none⟩ : Generator).fromWindowMatch teamWindow "" 0).context.field? "target_team" =
        none ∧
      ((⟨"host", none⟩ : Generator).fromWindowMatch teamWindow "" 0).context.field? "decision" =
        none :=
  ⟨rfl, rfl, rfl, rfl, fromWindowMatch_target_team _ _ _ _, rfl⟩

end Santamon.Signals
