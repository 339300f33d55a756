import Santamon.Rules.Config
import Mathlib.Data.List.Nodup

namespace Santamon.Rules

theorem except_bind_eq_ok {ε α β : Type} {x : Except ε α} {f : α → Except ε β} {b : β} :
    x >>= f = .ok b ↔ ∃ a, x = .ok a ∧ f a = .ok b := by
  cases x with
  | error e => exact ⟨fun h => (nomatch h), fun ⟨_, h, _⟩ => (nomatch h)⟩
  | ok a => exact ⟨fun h => ⟨a, rfl, h⟩, fun ⟨_, h, hf⟩ => by cases h; exact hf⟩

theorem validateSection_eq_ok {α : Type} (duplicate : String → String) (wrap : String)
    (id : α → String) (validate : α → Except String Unit) (seen : List String) (rs : List α)
    (s : List String) :
    validateSection duplicate wrap id validate seen rs = .ok s ↔
      s = (rs.map id).reverse ++ seen ∧ (rs.map id).Nodup ∧ (∀ r ∈ rs, id r ∉ seen) ∧
        ∀ r ∈ rs, validate r = .ok () := by
  induction rs generalizing seen with
  | nil => simp [validateSection, eq_comm]
  | cons r rs ih =>
    unfold validateSection
    by_cases hr : id r ∈ seen
    · simp only [hr, if_true]
      exact ⟨fun h => (nomatch h), fun h => absurd hr (h.2.2.1 r (List.mem_cons_self _ _))⟩
    · simp only [hr, if_false]
      cases hv : validate r with
      | error err =>
        exact ⟨fun h => (nomatch h), fun h => nomatch hv.symm.trans (h.2.2.2 r (List.mem_cons_self _ _))⟩
      | ok u =>
        simp only [ih, List.map_cons, List.reverse_cons, List.append_assoc, List.singleton_append,
          List.nodup_cons, List.mem_cons, not_or, hr, hv, List.mem_map, forall_eq_or_imp,
          not_exists, not_and, imp_and, forall_and, not_false_eq_true, true_and]
        exact ⟨fun ⟨h₁, h₂, ⟨h₃, h₄⟩, h₅⟩ => ⟨h₁, ⟨h₃, h₂⟩, h₄, h₅⟩,
          fun ⟨h₁, ⟨h₃, h₂⟩, h₄, h₅⟩ => ⟨h₁, h₂, ⟨h₃, h₄⟩, h₅⟩⟩

/-- The IDs of all three sections of a configuration. -/
def RulesConfig.ids (rc : RulesConfig) : List String :=
  rc.rules.map Rule.id ++ rc.correlations.map CorrelationRule.id ++ rc.baselines.map BaselineRule.id

theorem RulesConfig.validate_eq_ok_iff (rc : RulesConfig) :
    rc.validate = .ok () ↔ rc.ids.Nodup ∧
        (∀ r ∈ rc.rules, r.validate = .ok ()) ∧ (∀ c ∈ rc.correlations, c.validate = .ok ()) ∧
        ∀ b ∈ rc.baselines, b.validate = .ok () := by
  have hp : (pure () : Except String Unit) = .ok () := rfl
  simp only [RulesConfig.validate, RulesConfig.ids, except_bind_eq_ok, validateSection_eq_ok,
    and_assoc, exists_eq_left, hp, and_true, List.append_nil, List.nodup_append, List.disjoint_left,
    List.mem_append, List.mem_reverse, List.mem_map, not_or, not_exists, not_and,
    List.not_mem_nil, not_false_eq_true, implies_true, true_and, forall_exists_index, and_imp,
    forall_apply_eq_imp_iff₂, or_imp, forall_and]
  constructor
  · rintro ⟨hr, hvr, hc, hcr, hvc, hb, hbc, hbr, hvb⟩
    exact ⟨hr, hc, fun a ha x hx h => hcr x hx a ha h.symm, hb,
      fun a ha x hx h => hbr x hx a ha h.symm, fun a ha x hx h => hbc x hx a ha h.symm, hvr, hvc, hvb⟩
  · rintro ⟨hr, hc, hrc, hb, hrb, hcb, hvr, hvc, hvb⟩
    exact ⟨hr, hvr, hc, fun a ha x hx h => hrc x hx a ha h.symm, hvc, hb,
      fun a ha x hx h => hcb x hx a ha h.symm, fun a ha x hx h => hrb x hx a ha h.symm, hvb⟩

theorem RulesConfig.ids_nodup {rc : RulesConfig} (h : rc.validate = .ok ()) : rc.ids.Nodup :=
  ((RulesConfig.validate_eq_ok_iff rc).mp h).1

theorem CorrelationRule.window_threshold_of_validate {cr : CorrelationRule}
    (h : cr.validate = .ok ()) : cr.window ≠ 0 ∧ 0 < cr.threshold := by
  unfold CorrelationRule.validate at h
  split_ifs at h with _ _ _ hw ht
  all_goals first | cases h | exact ⟨hw, lt_of_not_le ht⟩

/-- `LoadRulesFile` once the file is read and parsed. -/
def loadRulesFile (config : RulesConfig) : Except String RulesConfig :=
  match config.validate with
  | .error err => .error ("invalid rules configuration: " ++ err)
  | .ok () => .ok config

/-- `RulesConfig.Merge`. -/
def RulesConfig.merge (rc other : RulesConfig) : RulesConfig :=
  ⟨rc.rules ++ other.rules, rc.correlations ++ other.correlations, rc.baselines ++ other.baselines⟩

/-- The duplicate check of `LoadRulesDir` for one section of the file at `path`. -/
def checkIDs {α : Type} (what : String) (id : α → String) (path : String) :
    List (String × String) → List α → Except String (List (String × String))
  | idToFile, [] => .ok idToFile
  | idToFile, r :: rs =>
    match idToFile.lookup (id r) with
    | some existingFile =>
      .error ("duplicate " ++ what ++ " ID " ++ id r ++ ": found in both " ++ existingFile ++
        " and " ++ path)
    | none => checkIDs what id path ((id r, path) :: idToFile) rs

/-- The walk of `LoadRulesDir` over the parsed rule files, in walk order. -/
def loadRulesDirLoop : List (String × String) → RulesConfig → List (String × RulesConfig) →
    Except String RulesConfig
  | _, merged, [] => .ok merged
  | idToFile, merged, (path, config) :: files => do
    let idToFile ← checkIDs "rule" Rule.id path idToFile config.rules
    let idToFile ← checkIDs "correlation" CorrelationRule.id path idToFile config.correlations
    let idToFile ← checkIDs "baseline" BaselineRule.id path idToFile config.baselines
    loadRulesDirLoop idToFile (merged.merge config) files

/-- `LoadRulesDir` once the directory is walked and each `.yaml`/`.yml` file parsed. -/
def loadRulesDir (files : List (String × RulesConfig)) : Except String RulesConfig := do
  let merged ← loadRulesDirLoop [] ⟨[], [], []⟩ files
  match merged.validate with
  | .error err => .error ("invalid merged rules configuration: " ++ err)
  | .ok () => .ok merged

theorem loadRulesFile_eq_ok {config rc : RulesConfig} (h : loadRulesFile config = .ok rc) :
    rc = config ∧ rc.validate = .ok () := by
  unfold loadRulesFile at h
  split at h
  · exact nomatch h
  · cases h; exact ⟨rfl, ‹_›⟩

theorem loadRulesDir_validate {files : List (String × RulesConfig)} {rc : RulesConfig}
    (h : loadRulesDir files = .ok rc) : rc.validate = .ok () := by
  obtain ⟨merged, -, hv⟩ := except_bind_eq_ok.mp h
  split at hv
  · exact nomatch hv
  · cases hv; assumption

theorem loaded_ids_nodup {rc : RulesConfig}
    (h : (∃ config, loadRulesFile config = .ok rc) ∨ ∃ files, loadRulesDir files = .ok rc) :
    rc.ids.Nodup := by
  rcases h with ⟨config, h⟩ | ⟨files, h⟩
  · exact RulesConfig.ids_nodup (loadRulesFile_eq_ok h).2
  · exact RulesConfig.ids_nodup (loadRulesDir_validate h)

theorem rulesConfig_validate_spec (rc : RulesConfig) :
    (rc.validate = .ok () ↔ rc.ids.Nodup ∧ (∀ r ∈ rc.rules, r.validate = .ok ()) ∧
        (∀ c ∈ rc.correlations, c.validate = .ok ()) ∧ ∀ b ∈ rc.baselines, b.validate = .ok ()) ∧
      ((∃ config, loadRulesFile config = .ok rc) ∨ (∃ files, loadRulesDir files = .ok rc) →
        rc.ids.Nodup) :=
  ⟨RulesConfig.validate_eq_ok_iff rc, loaded_ids_nodup⟩

theorem lookup_eq_none_iff_keys {T : List (String × String)} {k : String} :
    T.lookup k = none ↔ k ∉ T.map Prod.fst := by
  simp only [List.lookup_eq_none_iff, bne_iff_ne, ne_eq, List.mem_map, not_exists, not_and]
  exact ⟨fun h p hp hk => h p hp hk.symm, fun h p hp hk => h p hp hk.symm⟩

theorem checkIDs_eq_ok {α : Type} (what : String) (id : α → String) (path : String)
    (T : List (String × String)) (rs : List α) (T' : List (String × String)) :
    checkIDs what id path T rs = .ok T' ↔
      T' = (rs.map fun r => (id r, path)).reverse ++ T ∧ (rs.map id).Nodup ∧
        ∀ r ∈ rs, id r ∉ T.map Prod.fst := by
  induction rs generalizing T with
  | nil => simp [checkIDs, eq_comm]
  | cons r rs ih =>
    unfold checkIDs
    cases hr : T.lookup (id r) with
    | some f =>
      have hm : id r ∈ T.map Prod.fst := by
        by_contra hn; rw [lookup_eq_none_iff_keys.mpr hn] at hr; cases hr
      exact ⟨fun h => (nomatch h), fun h => absurd hm (h.2.2 r (List.mem_cons_self _ _))⟩
    | none =>
      have hn := lookup_eq_none_iff_keys.mp hr
      simp only [ih, List.map_cons, List.reverse_cons, List.append_assoc, List.singleton_append,
        List.nodup_cons, List.mem_cons, not_or, forall_eq_or_imp, hn, not_false_eq_true, true_and]
      constructor
      · rintro ⟨rfl, hd, hk⟩
        exact ⟨rfl, ⟨fun hm => by
          obtain ⟨x, hx, he⟩ := List.mem_map.mp hm; exact (hk x hx).1 he, hd⟩, fun x hx => (hk x hx).2⟩
      · rintro ⟨rfl, ⟨hne, hd⟩, hk⟩
        exact ⟨rfl, hd, fun x hx => ⟨fun he => hne (he ▸ List.mem_map_of_mem id hx), hk x hx⟩⟩

theorem checkIDs_eq_ok_keys {α : Type} (what : String) (id : α → String) (path : String)
    {T : List (String × String)} (hT : (T.map Prod.fst).Nodup) (rs : List α)
    (T' : List (String × String)) :
    checkIDs what id path T rs = .ok T' ↔
      T' = (rs.map fun r => (id r, path)).reverse ++ T ∧ (T'.map Prod.fst).Nodup := by
  rw [checkIDs_eq_ok]
  have hk : ((rs.map fun r => (id r, path)).reverse ++ T).map Prod.fst =
      (rs.map id).reverse ++ T.map Prod.fst := by
    simp [List.map_reverse, Function.comp_def]
  constructor
  · rintro ⟨rfl, hd, hn⟩
    refine ⟨rfl, ?_⟩
    rw [hk, List.nodup_append, List.nodup_reverse]
    exact ⟨hd, hT, fun a ha hb => by
      obtain ⟨r, hr, rfl⟩ := List.mem_map.mp (List.mem_reverse.mp ha); exact hn r hr hb⟩
  · rintro ⟨rfl, hn⟩
    rw [hk, List.nodup_append, List.nodup_reverse] at hn
    exact ⟨rfl, hn.1, fun r hr hb => hn.2.2 (List.mem_reverse.mpr (List.mem_map_of_mem id hr)) hb⟩

theorem loadRulesDirLoop_eq_ok {T : List (String × String)} (hT : (T.map Prod.fst).Nodup)
    (merged : RulesConfig) (files : List (String × RulesConfig)) (rc : RulesConfig) :
    loadRulesDirLoop T merged files = .ok rc ↔
      ((files.flatMap (·.2.ids)).reverse ++ T.map Prod.fst).Nodup ∧
        rc = ⟨merged.rules ++ files.flatMap (·.2.rules),
          merged.correlations ++ files.flatMap (·.2.correlations),
          merged.baselines ++ files.flatMap (·.2.baselines)⟩ := by
  induction files generalizing T merged with
  | nil =>
    simp only [loadRulesDirLoop, List.flatMap_nil, List.reverse_nil, List.nil_append,
      List.append_nil, hT, true_and]
    exact ⟨fun h => by cases h; rfl, fun h => by rw [h]⟩
  | cons f files ih =>
    obtain ⟨path, config⟩ := f
    -- the keys the three section checks record, newest first
    have hk₃ : ((config.baselines.map fun r => (r.id, path)).reverse ++
        ((config.correlations.map fun r => (r.id, path)).reverse ++
          ((config.rules.map fun r => (r.id, path)).reverse ++ T))).map Prod.fst =
        config.ids.reverse ++ T.map Prod.fst := by
      simp [RulesConfig.ids, List.map_reverse, Function.comp_def]
    simp only [loadRulesDirLoop, except_bind_eq_ok]
    constructor
    · rintro ⟨T₁, h₁, T₂, h₂, T₃, h₃, hl⟩
      obtain ⟨rfl, hn₁⟩ := (checkIDs_eq_ok_keys _ _ _ hT _ _).mp h₁
      obtain ⟨rfl, hn₂⟩ := (checkIDs_eq_ok_keys _ _ _ hn₁ _ _).mp h₂
      obtain ⟨rfl, hn₃⟩ := (checkIDs_eq_ok_keys _ _ _ hn₂ _ _).mp h₃
      obtain ⟨hn, rfl⟩ := (ih hn₃ _).mp hl
      rw [hk₃] at hn
      refine ⟨by simpa using hn, ?_⟩
      simp [RulesConfig.merge]
    · rintro ⟨hn, rfl⟩
      simp only [List.flatMap_cons, List.reverse_append, List.append_assoc] at hn
      have hn₃ : (((config.baselines.map fun r => (r.id, path)).reverse ++
          ((config.correlations.map fun r => (r.id, path)).reverse ++
            ((config.rules.map fun r => (r.id, path)).reverse ++ T))).map Prod.fst).Nodup := by
        rw [hk₃]; exact hn.sublist (List.sublist_append_right _ _)
      have hn₂ := hn₃.sublist ((List.sublist_append_right _ _).map Prod.fst)
      have hn₁ := hn₂.sublist ((List.sublist_append_right _ _).map Prod.fst)
      refine ⟨_, (checkIDs_eq_ok_keys _ _ _ hT _ _).mpr ⟨rfl, hn₁⟩, _,
        (checkIDs_eq_ok_keys _ _ _ hn₁ _ _).mpr ⟨rfl, hn₂⟩, _,
        (checkIDs_eq_ok_keys _ _ _ hn₂ _ _).mpr ⟨rfl, hn₃⟩, (ih hn₃ _).mpr ⟨by rwa [hk₃], ?_⟩⟩
      simp [RulesConfig.merge]

theorem flatMap_ids_perm (files : List (String × RulesConfig)) :
    (files.flatMap (·.2.ids)).Perm (RulesConfig.ids ⟨files.flatMap (·.2.rules),
      files.flatMap (·.2.correlations), files.flatMap (·.2.baselines)⟩) := by
  induction files with
  | nil => exact List.Perm.refl _
  | cons f files ih =>
    refine List.perm_iff_count.mpr fun a => ?_
    have hc := ih.count_eq a
    simp only [RulesConfig.ids, List.flatMap_cons, List.map_append, List.count_append] at hc ⊢
    omega

theorem loadRulesDir_eq_ok_iff (files : List (String × RulesConfig)) (rc : RulesConfig) :
    loadRulesDir files = .ok rc ↔
      rc = ⟨files.flatMap (·.2.rules), files.flatMap (·.2.correlations),
        files.flatMap (·.2.baselines)⟩ ∧ rc.validate = .ok () := by
  have hloop := loadRulesDirLoop_eq_ok (T := []) List.nodup_nil ⟨[], [], []⟩ files
  simp only [List.nil_append, List.map_nil, List.append_nil, List.nodup_reverse] at hloop
  unfold loadRulesDir
  rw [except_bind_eq_ok]
  constructor
  · rintro ⟨merged, hl, hv⟩
    obtain ⟨-, rfl⟩ := (hloop _).mp hl
    split at hv
    · exact nomatch hv
    · cases hv; exact ⟨rfl, ‹_›⟩
  · rintro ⟨rfl, hv⟩
    refine ⟨_, (hloop _).mpr ⟨(flatMap_ids_perm files).nodup_iff.mpr (RulesConfig.ids_nodup hv),
      rfl⟩, ?_⟩
    simp only [hv]

end Santamon.Rules
