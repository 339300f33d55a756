import Santamon.Signals.Generator

namespace Santamon.Signals

open Santamon.Events Santamon.Correlation

variable {msg : SantaMessage} {sample : EventMap}

theorem eventMapOf_extractField (h : eventMapOf msg = .ok sample) :
    ∃ ev, msg.event.toJson? = some ev ∧ ∀ (field : String) {k k₂ : String} {ks : List String},
      splitDots field.toList [] = k :: k₂ :: ks → k ∉ metaKeys → k₂ ≠ "args" → k₂ ≠ "envs" →
        extractField sample field = extractField ev field := by
  obtain ⟨ev, hev, hf⟩ := eventMapOf_field? h
  refine ⟨ev, hev, fun field k k₂ ks hs hk ha he => ?_⟩
  have hw : walk (some (.obj sample)) (k :: k₂ :: ks) = walk (some (.obj ev)) (k :: k₂ :: ks) := by
    show walk (sample.field? k) (k₂ :: ks) = walk (ev.field? k) (k₂ :: ks)
    rw [hf k hk]
    by_cases hx : k = "execution"
    · subst hx
      exact decodeExecutionStringLists_execution ev ha he ks
    · rw [decodeExecutionStringLists_field?_ne ev hx]
  simp only [extractField, hs, hw]

@[simp] theorem firstField_singleton (m : EventMap) (p : String) :
    firstField m [p] = extractField m p := by
  simp only [firstField]
  split <;> simp_all

theorem firstField_pair_of_snd (m : EventMap) (p q : String) (h : extractField m q = "") :
    firstField m [p, q] = extractField m p := by
  simp only [firstField, h]
  split <;> simp_all

theorem firstField_pair_of_fst (m : EventMap) (p q : String) (h : extractField m p = "") :
    firstField m [p, q] = extractField m q := by
  simp only [firstField, h]
  split <;> simp_all

theorem firstField_sample (h : eventMapOf msg = .ok sample) (pX pF : String) {kX kF : String}
    {ksX ksF : List String} (hX : splitDots pX.toList [] = "execution" :: kX :: ksX)
    (hF : splitDots pF.toList [] = "file_access" :: kF :: ksF) (hkX : kX ≠ "args" ∧ kX ≠ "envs")
    (hkF : kF ≠ "args" ∧ kF ≠ "envs") :
    ∃ ev, msg.event.toJson? = some ev ∧ firstField sample [pX, pF] =
      match msg.event with
      | .execution _ => extractField ev pX
      | .fileAccess _ => extractField ev pF
      | _ => "" := by
  obtain ⟨ev, hev, hE⟩ := eventMapOf_extractField h
  have hx := hE pX hX (by decide) hkX.1 hkX.2
  have hf := hE pF hF (by decide) hkF.1 hkF.2
  refine ⟨ev, hev, ?_⟩
  have hnx (hE : ∀ e, msg.event ≠ .execution e) : extractField ev pX = "" :=
    extractField_of_field?_eq_none hX (toJson?_execution_field? hev hE)
  have hnf (hE : ∀ f, msg.event ≠ .fileAccess f) : extractField ev pF = "" :=
    extractField_of_field?_eq_none hF (toJson?_file_access_field? hev hE)
  rcases hmsg : msg.event with e | f | x | ⟨o, p⟩ | _ <;>
    simp only [hmsg, ne_eq, reduceCtorEq, not_false_eq_true, implies_true, forall_const] at hnx hnf
  · rw [firstField_pair_of_snd _ _ _ (hf.trans hnf), hx]
  · rw [firstField_pair_of_fst _ _ _ (hx.trans hnx), hf]
  all_goals rw [firstField_pair_of_snd _ _ _ (hf.trans hnf), hx, hnx]

theorem firstField_actor_path (h : eventMapOf msg = .ok sample) :
    firstField sample ["execution.instigator.executable.path",
      "file_access.instigator.executable.path"] = actorPath msg := by
  obtain ⟨ev, hev, hr⟩ := firstField_sample h "execution.instigator.executable.path"
    "file_access.instigator.executable.path" rfl rfl (by decide) (by decide)
  rw [hr]
  rcases hmsg : msg.event with e | f | x | ⟨o, p⟩ | _ <;> rw [hmsg] at hev <;>
    simp only [actorPath, hmsg]
  · obtain ⟨target, -, rfl⟩ := toJson?_execution hev
    rcases e.instigator with _ | ⟨_, _ | ⟨_ | s⟩⟩ <;> rfl
  · obtain ⟨inst, hi, rfl⟩ := toJson?_fileAccess hev
    rcases optProcessInfo_eq_some hi with ⟨hn, rfl⟩ | ⟨t, st, hs, rfl⟩
    · rw [hn]
      rfl
    · simp only [hs, ProcessInfo.toJson, Option.some_bind]
      rcases t.executable with _ | ⟨_ | s, _⟩ <;> rfl

theorem firstField_actor_code_signature (h : eventMapOf msg = .ok sample) (key : String)
    (field : CodeSignature → Option String)
    (hkey : key = "team_id" ∧ field = (·.teamId) ∨ key = "signing_id" ∧ field = (·.signingId)) :
    firstField sample ["execution.instigator.code_signature." ++ key,
      "file_access.instigator.code_signature." ++ key] = actorCodeSignature field msg := by
  obtain ⟨ev, hev, hr⟩ : ∃ ev, msg.event.toJson? = some ev ∧ firstField sample
      ["execution.instigator.code_signature." ++ key,
        "file_access.instigator.code_signature." ++ key] =
      match msg.event with
      | .execution _ => extractField ev ("execution.instigator.code_signature." ++ key)
      | .fileAccess _ => extractField ev ("file_access.instigator.code_signature." ++ key)
      | _ => "" := by
    rcases hkey with ⟨rfl, -⟩ | ⟨rfl, -⟩ <;>
      exact firstField_sample h _ _ rfl rfl (by decide) (by decide)
  rw [hr]
  rcases hmsg : msg.event with e | f | x | ⟨o, p⟩ | _ <;> rw [hmsg] at hev <;>
    simp only [actorCodeSignature, hmsg]
  · obtain ⟨target, -, rfl⟩ := toJson?_execution hev
    rcases hkey with ⟨rfl, -⟩ | ⟨rfl, -⟩ <;> rcases e.instigator with _ | _ <;> rfl
  · obtain ⟨inst, hi, rfl⟩ := toJson?_fileAccess hev
    rcases optProcessInfo_eq_some hi with ⟨hn, rfl⟩ | ⟨t, st, hs, rfl⟩
    · rw [hn]
      rcases hkey with ⟨rfl, -⟩ | ⟨rfl, -⟩ <;> rfl
    · simp only [hs, ProcessInfo.toJson, Option.some_bind]
      rcases hkey with ⟨rfl, rfl⟩ | ⟨rfl, rfl⟩ <;> rcases t.sessionId with _ | _ <;>
        rcases t.codeSignature with _ | ⟨_ | _, _ | _⟩ <;> rfl

theorem firstField_target_path (h : eventMapOf msg = .ok sample) :
    firstField sample ["execution.target.executable.path", "file_access.target.path"] =
      match msg.event with
      | .xprotect _ => ""
      | _ => targetPath msg := by
  obtain ⟨ev, hev, hr⟩ := firstField_sample h "execution.target.executable.path"
    "file_access.target.path" rfl rfl (by decide) (by decide)
  rw [hr]
  rcases hmsg : msg.event with e | f | x | ⟨o, p⟩ | _ <;> rw [hmsg] at hev <;>
    simp only [targetPath, hmsg]
  · obtain ⟨target, ht, rfl⟩ := toJson?_execution hev
    rcases optProcessInfo_eq_some ht with ⟨hn, rfl⟩ | ⟨t, st, hs, rfl⟩
    · rw [hn]
      rfl
    · simp only [hs, ProcessInfo.toJson, Option.some_bind]
      rcases t.executable with _ | ⟨_ | s, _⟩ <;> rfl
  · obtain ⟨inst, -, rfl⟩ := toJson?_fileAccess hev
    rcases f.target with _ | ⟨_ | s⟩ <;> rfl

theorem firstField_target_path_of_ne (h : eventMapOf msg = .ok sample)
    (hx : ∀ x, msg.event ≠ .xprotect x) :
    firstField sample ["execution.target.executable.path", "file_access.target.path"] =
      targetPath msg := by
  rw [firstField_target_path h]
  rcases hmsg : msg.event with _ | _ | x | _ | _
  all_goals first | exact absurd hmsg (hx x) | rfl

theorem firstField_target_sha256 (h : eventMapOf msg = .ok sample) :
    firstField sample ["execution.target.executable.hash.hash"] = targetSHA256 msg := by
  obtain ⟨ev, hev, hE⟩ := eventMapOf_extractField h
  rw [firstField_singleton,
    hE "execution.target.executable.hash.hash" rfl (by decide) (by decide) (by decide)]
  have hnx (hE : ∀ e, msg.event ≠ .execution e) :
      extractField ev "execution.target.executable.hash.hash" = "" :=
    extractField_of_field?_eq_none rfl (toJson?_execution_field? hev hE)
  rcases hmsg : msg.event with e | f | x | ⟨o, p⟩ | _ <;> rw [hmsg] at hev <;>
    simp only [targetSHA256, hmsg]
  · obtain ⟨target, ht, rfl⟩ := toJson?_execution hev
    rcases optProcessInfo_eq_some ht with ⟨hn, rfl⟩ | ⟨t, st, hs, rfl⟩
    · rw [hn]
      rfl
    · simp only [hs, ProcessInfo.toJson, Option.some_bind]
      rcases t.executable with _ | ⟨_ | _, _ | ⟨_ | s⟩⟩ <;> rfl
  all_goals exact hnx (by simp [hmsg])

theorem firstField_decision (h : eventMapOf msg = .ok sample) :
    firstField sample ["execution.decision", "file_access.policy_decision"] =
      match msg.event with
      | .execution e => (e.decision.map (enumName decisionNames)).getD ""
      | .fileAccess f => (f.policyDecision.map (enumName policyDecisionNames)).getD ""
      | _ => "" := by
  obtain ⟨ev, hev, hr⟩ := firstField_sample h "execution.decision" "file_access.policy_decision"
    rfl rfl (by decide) (by decide)
  rw [hr]
  rcases hmsg : msg.event with e | f | x | ⟨o, p⟩ | _ <;> rw [hmsg] at hev <;> simp only
  · obtain ⟨target, -, rfl⟩ := toJson?_execution hev
    rcases e.decision with _ | n
    · rfl
    · rw [Option.map_some', Option.getD_some, ← enumValue_toString]
      refine extractField_eq_toString ?_ (enumValue_ne_null _ _)
      rw [show splitDots "execution.decision".toList [] = ["execution", "decision"] from rfl]
      simp only [walk]
      rfl
  · obtain ⟨inst, -, rfl⟩ := toJson?_fileAccess hev
    rcases f.policyDecision with _ | n
    · rcases f.policyName with _ | _ <;> rfl
    · rw [Option.map_some', Option.getD_some, ← enumValue_toString]
      refine extractField_eq_toString ?_ (enumValue_ne_null _ _)
      rw [show splitDots "file_access.policy_decision".toList [] =
        ["file_access", "policy_decision"] from rfl]
      simp only [walk]
      rcases f.policyName with _ | _ <;> rfl

theorem firstField_decision_of_set (h : eventMapOf msg = .ok sample)
    (hd : ∀ e, msg.event = .execution e → e.decision.isSome)
    (hf : ∀ f, msg.event = .fileAccess f → f.policyDecision.isSome) :
    firstField sample ["execution.decision", "file_access.policy_decision"] = decision msg := by
  rw [firstField_decision h]
  rcases hmsg : msg.event with e | f | _ | _ | _ <;> simp only [decision, hmsg]
  · obtain ⟨n, hn⟩ := Option.isSome_iff_exists.mp (hd e hmsg)
    simp [hn]
  · obtain ⟨n, hn⟩ := Option.isSome_iff_exists.mp (hf f hmsg)
    simp [hn]

theorem kindFromMap_sample (h : eventMapOf msg = .ok sample) :
    kindFromMap sample = if kind msg ∈ kindKeys then kind msg else "unknown" := by
  obtain ⟨ev, hev, hf⟩ := eventMapOf_field? h
  have hkm : ∀ k ∈ kindKeys, k ∉ metaKeys := by decide
  rw [kindFromMap_congr fun k hk =>
    (congrArg Option.isSome (hf k (hkm k hk))).trans (decodeExecutionStringLists_isSome ev k)]
  rcases hmsg : msg.event with e | f | x | ⟨o, p⟩ | _ <;> rw [hmsg] at hev <;>
    simp only [kind, hmsg]
  · obtain ⟨_, _, rfl⟩ := toJson?_execution hev
    rfl
  · obtain ⟨_, _, rfl⟩ := toJson?_fileAccess hev
    rfl
  all_goals cases hev
  · rfl
  · cases o <;> rfl
  · rfl

theorem kindFromMap_sample_of_mem (h : eventMapOf msg = .ok sample)
    (hk : kind msg ∈ kindKeys ∨ msg.event = .unset) : kindFromMap sample = kind msg := by
  rw [kindFromMap_sample h]
  rcases hk with hk | hk
  · rw [if_pos hk]
  · have hu : kind msg = "unknown" := by simp [kind, hk]
    rw [hu, if_neg (by decide)]

end Santamon.Signals
