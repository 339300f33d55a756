import Santamon.State.DB

namespace Santamon.State

open Santamon.Events

variable {ρ μ : Type}

/-- The rule loop of `WindowManager.Process` and `Processor.Process`. -/
def ruleLoop (step : Time → ρ → DB → Except String (Option μ) × DB) :
    (Nat → Time) → List ρ → DB → Except String (List μ) × DB
  | _, [], db => (.ok [], db)
  | clock, r :: rs, db =>
    match step (clock 0) r db with
    | (.error err, db) => (.error err, db)
    | (.ok m, db) =>
      match ruleLoop step (fun i => clock (i + 1)) rs db with
      | (.error err, db) => (.error err, db)
      | (.ok ms, db) => (.ok (m.toList ++ ms), db)

/-- What a step fires: nothing when it fails. -/
def fired : Except String (Option μ) → List μ
  | .ok o => o.toList
  | .error _ => []

@[simp] theorem fired_ok (o : Option μ) : fired (.ok o : Except String (Option μ)) = o.toList := rfl

theorem ruleLoop_map_rules {ρ' μ' : Type} {step : Time → ρ → DB → Except String (Option μ) × DB}
    {step' : Time → ρ' → DB → Except String (Option μ') × DB} {f : ρ → ρ'} {g : μ → μ'}
    {rs : List ρ}
    (h : ∀ t r db, r ∈ rs → step' t (f r) db = ((step t r db).1.map (Option.map g), (step t r db).2))
    (clock : Nat → Time) (db : DB) :
    ruleLoop step' clock (rs.map f) db =
      ((ruleLoop step clock rs db).1.map (List.map g), (ruleLoop step clock rs db).2) := by
  induction rs generalizing clock db with
  | nil => rfl
  | cons r rs ih =>
    have ih' := ih (fun t r' db hr => h t r' db (List.mem_cons_of_mem _ hr)) (fun i => clock (i + 1))
    simp only [List.map_cons, ruleLoop, h _ r db (List.mem_cons_self _ _)]
    rcases step (clock 0) r db with ⟨_ | o, db₁⟩
    · rfl
    · simp only [Except.map, ih']
      rcases ruleLoop step (fun i => clock (i + 1)) rs db₁ with ⟨_ | ms, db₂⟩
      · rfl
      · cases o <;> rfl

/-- A rule step that keeps to its own rule's part of the store. -/
structure LocalStep (step : ρ → DB → Except String (Option μ) × DB) (key : ρ → String) :
    Prop where
  ok : ∀ r db, db.faults = [] → ∃ o, (step r db).1 = .ok o
  faults : ∀ r db, db.faults = [] → (step r db).2.faults = []
  indep : ∀ r r' db, key r ≠ key r' → db.faults = [] → (step r' (step r db).2).1 = (step r' db).1
  comm : ∀ r r' db, key r ≠ key r' → db.faults = [] →
    (step r' (step r db).2).2 = (step r (step r' db).2).2

section Local

variable {step : Time → ρ → DB → Except String (Option μ) × DB} {t : Time} {key : ρ → String}

theorem ruleLoop_const (h : LocalStep (step t) key) {rs : List ρ} (hd : (rs.map key).Nodup)
    {db : DB} (hf : db.faults = []) :
    ruleLoop step (fun _ => t) rs db =
      (.ok (rs.flatMap fun r => fired (step t r db).1), rs.foldl (fun db r => (step t r db).2) db) := by
  induction rs generalizing db with
  | nil => rfl
  | cons r rs ih =>
    rw [List.map_cons, List.nodup_cons] at hd
    obtain ⟨o, ho⟩ := h.ok r db hf
    obtain ⟨db₁, hs⟩ : ∃ db₁, step t r db = (.ok o, db₁) := ⟨_, Prod.ext ho rfl⟩
    have hf₁ : db₁.faults = [] := by simpa only [hs] using h.faults r db hf
    have hind : ∀ r' ∈ rs, fired (step t r' db₁).1 = fired (step t r' db).1 := fun r' hr' => by
      rw [← h.indep r r' db (fun he => hd.1 (he ▸ List.mem_map_of_mem key hr')) hf, hs]
    have hfl : rs.flatMap (fun r' => fired (step t r' db₁).1) = rs.flatMap fun r' => fired (step t r' db).1 :=
      congrArg List.flatten (List.map_congr_left hind)
    simp only [ruleLoop, hs, ih hd.2 hf₁, hfl, List.flatMap_cons, List.foldl_cons, fired_ok]

theorem foldl_perm (h : LocalStep (step t) key) {rs rs' : List ρ} (hp : rs.Perm rs')
    (hd : (rs.map key).Nodup) {db : DB} (hf : db.faults = []) :
    rs'.foldl (fun db r => (step t r db).2) db = rs.foldl (fun db r => (step t r db).2) db := by
  induction hp generalizing db with
  | nil => rfl
  | cons r _ ih =>
    rw [List.map_cons, List.nodup_cons] at hd
    exact ih hd.2 (h.faults r db hf)
  | swap r r' rs =>
    have hne : key r' ≠ key r := by
      simp only [List.map_cons, List.nodup_cons, List.mem_cons, not_or] at hd
      exact hd.1.1
    simp only [List.foldl_cons, h.comm r' r db hne hf]
  | trans hp₁ _ ih₁ ih₂ =>
    exact (ih₂ ((hp₁.map key).nodup_iff.mp hd) hf).trans (ih₁ hd hf)

theorem ruleLoop_perm (h : LocalStep (step t) key) {rs rs' : List ρ} (hp : rs.Perm rs')
    (hd : (rs.map key).Nodup) {db : DB} (hf : db.faults = []) :
    ruleLoop step (fun _ => t) rs' db =
      (.ok (rs'.flatMap fun r => fired (step t r db).1), (ruleLoop step (fun _ => t) rs db).2) := by
  rw [ruleLoop_const h ((hp.map key).nodup_iff.mp hd) hf, ruleLoop_const h hd hf,
    foldl_perm h hp hd hf]

end Local

end Santamon.State
