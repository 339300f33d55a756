import Santamon.Lineage.Store

namespace Santamon.Lineage

open Santamon.Events

theorem mem_of_lookup {l : List (Key × Node)} {k : Key} {n : Node} (h : l.lookup k = some n) :
    (k, n) ∈ l := by
  obtain ⟨l₁, l₂, rfl, -⟩ := List.lookup_eq_some_iff.mp h
  simp

theorem lookup_of_mem {l : List (Key × Node)} (hd : (l.map (·.1)).Nodup) {k : Key} {n : Node}
    (h : (k, n) ∈ l) : l.lookup k = some n := by
  induction l with
  | nil => cases h
  | cons p l ih =>
    obtain ⟨k', n'⟩ := p
    rw [List.map_cons, List.nodup_cons] at hd
    rcases List.mem_cons.mp h with hn | hn
    · cases hn; simp
    · have hk : k ≠ k' := by rintro rfl; exact hd.1 (List.mem_map_of_mem (·.1) hn)
      simp [List.lookup_cons, beq_false_of_ne hk, ih hd.2 hn]

/-- The invariant of the lineage cache. -/
structure WellFormed (nodes : List (Key × Node)) : Prop where
  nodup : (nodes.map (·.1)).Nodup
  key : ∀ k n, (k, n) ∈ nodes → n.key = k
  parent : ∀ k n, (k, n) ∈ nodes → n.parent.isZero = true ∨ n.parent.bootUUID = n.key.bootUUID

theorem WellFormed.sublist {l l' : List (Key × Node)} (h : WellFormed l) (hs : l'.Sublist l) :
    WellFormed l' :=
  ⟨h.nodup.sublist (hs.map _), fun k n hn => h.key k n (hs.subset hn),
    fun k n hn => h.parent k n (hs.subset hn)⟩

theorem WellFormed.perm {l l' : List (Key × Node)} (h : WellFormed l) (hp : l'.Perm l) :
    WellFormed l' :=
  ⟨(hp.map _).nodup_iff.mpr h.nodup, fun k n hn => h.key k n (hp.subset hn),
    fun k n hn => h.parent k n (hp.subset hn)⟩

theorem WellFormed.get? {s : Store} (h : WellFormed s.nodes) {k : Key} {n : Node}
    (hk : s.get? k = some n) : n.key = k ∧ (k, n) ∈ s.nodes :=
  ⟨h.key k n (mem_of_lookup hk), mem_of_lookup hk⟩

theorem evictExpiredLocked_sublist (s : Store) (now : Time) :
    (s.evictExpiredLocked now).nodes.Sublist s.nodes := by
  unfold Store.evictExpiredLocked; split
  · exact List.Sublist.refl _
  · exact List.filter_sublist _

theorem evictOldestLocked_sublist (s : Store) : s.evictOldestLocked.nodes.Sublist s.nodes := by
  unfold Store.evictOldestLocked; split
  · exact List.Sublist.refl _
  · dsimp only; split
    · exact List.Sublist.refl _
    · exact List.filter_sublist _

theorem WellFormed.set {s : Store} (h : WellFormed s.nodes) {k : Key} {n : Node} (hk : n.key = k)
    (hp : n.parent.isZero = true ∨ n.parent.bootUUID = n.key.bootUUID) :
    WellFormed (s.set k n).nodes := by
  have hf := h.sublist (List.filter_sublist s.nodes :
    (s.nodes.filter fun kn => kn.1 != k).Sublist s.nodes)
  refine ⟨?_, ?_, ?_⟩
  · rw [Store.set, List.map_append, List.nodup_append]
    refine ⟨hf.nodup, List.nodup_singleton _, ?_⟩
    simp [List.disjoint_singleton, List.mem_map, List.mem_filter]
  · intro k' n' hn
    rcases List.mem_append.mp hn with hn | hn
    · exact hf.key k' n' hn
    · cases List.mem_singleton.mp hn; exact hk
  · intro k' n' hn
    rcases List.mem_append.mp hn with hn | hn
    · exact hf.parent k' n' hn
    · cases List.mem_singleton.mp hn; exact hp

theorem fromProcessID_zero_or_boot (boot : String) (p : Option ProcessID) :
    (fromProcessID boot p).isZero = true ∨ (fromProcessID boot p).bootUUID = boot := by
  cases p
  · exact .inl rfl
  · exact .inr rfl

theorem makeRoom_sublist_evictExpired (s : Store) (now : Time) :
    (s.makeRoom now).nodes.Sublist (s.evictExpiredLocked now).nodes := by
  unfold Store.makeRoom; dsimp only; split
  · exact evictOldestLocked_sublist _
  · exact List.Sublist.refl _

theorem makeRoom_sublist (s : Store) (now : Time) : (s.makeRoom now).nodes.Sublist s.nodes :=
  (makeRoom_sublist_evictExpired s now).trans (evictExpiredLocked_sublist s now)

/-- The key an upsert writes, if it writes one. -/
def writtenKey : Option SantaMessage → Option Execution → Option Key
  | some msg, some ev =>
    (ev.target.bind (·.id)).map fun id => fromProcessID msg.getBootSessionUuid (some id)
  | _, _ => none

theorem upsertFromExecution_cases (s : Store) (msg : Option SantaMessage) (ev : Option Execution)
    (now : Time) :
    s.upsertFromExecution msg ev now = s ∨
      ∃ node : Node, writtenKey msg ev = some node.key ∧
        (node.parent.isZero = true ∨ node.parent.bootUUID = node.key.bootUUID) ∧
        s.upsertFromExecution msg ev now = (s.makeRoom now).set node.key node := by
  unfold Store.upsertFromExecution
  split
  · rename_i msg ev
    split
    · rename_i target ht
      split
      · rename_i id hi
        exact .inr ⟨_, by simp [writtenKey, ht, hi, nodeOf], fromProcessID_zero_or_boot _ _, rfl⟩
      · exact .inl rfl
    · exact .inl rfl
  · exact .inl rfl

theorem WellFormed.upsert {s : Store} (h : WellFormed s.nodes) (msg : Option SantaMessage)
    (ev : Option Execution) (now : Time) : WellFormed (s.upsertFromExecution msg ev now).nodes := by
  rcases upsertFromExecution_cases s msg ev now with he | ⟨node, -, hp, he⟩ <;> rw [he]
  · exact h
  · exact (h.sublist (makeRoom_sublist s now)).set rfl hp

/-- The stores reachable from `NewStore` by upserts; `reorder` stands for Go's map iteration order. -/
inductive Reachable : Store → Prop
  | new (cfg : Config) : Reachable (newStore cfg)
  | upsert {s : Store} (msg : Option SantaMessage) (ev : Option Execution) (now : Time) :
      Reachable s → Reachable (s.upsertFromExecution msg ev now)
  | reorder {s : Store} (nodes : List (Key × Node)) :
      Reachable s → nodes.Perm s.nodes → Reachable { s with nodes := nodes }

theorem reachable_wellFormed {s : Store} (h : Reachable s) : WellFormed s.nodes := by
  induction h with
  | new cfg => exact ⟨List.nodup_nil, by simp [newStore], by simp [newStore]⟩
  | upsert msg ev now _ ih => exact ih.upsert msg ev now
  | reorder nodes _ hp ih => exact ih.perm hp

theorem chain_boot {s : Store} (h : WellFormed s.nodes) (fuel : Nat) {current : Node} {k : Key}
    (hc : (k, current) ∈ s.nodes) (seen : List Key) :
    ∀ n ∈ s.chain fuel current seen, n.key.bootUUID = current.key.bootUUID := by
  induction fuel generalizing current k seen with
  | zero => simp [Store.chain]
  | succ fuel ih =>
    intro n hn
    rcases List.mem_cons.mp hn with rfl | hn
    · rfl
    split at hn
    · cases hn
    rename_i hz
    split at hn
    · cases hn
    rename_i next hnext
    split at hn
    · cases hn
    obtain ⟨hkey, hmem⟩ := h.get? hnext
    rw [ih hmem _ n hn, hkey, (h.parent k current hc).resolve_left hz]

theorem lineage_boot {s : Store} (h : WellFormed s.nodes) (key : Key) (d : Int) :
    ∀ n ∈ (s.lineage key d).getD [], n.key.bootUUID = key.bootUUID := by
  intro n hn
  unfold Store.lineage at hn
  by_cases he : s.nodes.isEmpty
  · simp [he] at hn
  cases hcur : s.get? key with
  | none => simp [he, hcur] at hn
  | some current =>
    obtain ⟨hkey, hmem⟩ := h.get? hcur
    simp only [he, hcur, Bool.false_eq_true, if_false, Option.getD_some] at hn
    rw [chain_boot h _ hmem [] n hn, hkey]

theorem lineage_same_boot {s : Store} (h : Reachable s) :
    (∀ k n, (k, n) ∈ s.nodes → s.get? n.key = some n ∧
      (n.parent.isZero = true ∨ n.parent.bootUUID = n.key.bootUUID)) ∧
    ∀ (key : Key) (d : Int), ∀ n ∈ (s.lineage key d).getD [], n.key.bootUUID = key.bootUUID := by
  have hw := reachable_wellFormed h
  refine ⟨fun k n hn => ⟨?_, hw.parent k n hn⟩, lineage_boot hw⟩
  rw [hw.key k n hn]
  exact lookup_of_mem hw.nodup hn

/-- A target with pid `pid`, pidversion 0 and no other field set. -/
def pidTarget (pid : Int) : ProcessInfo :=
  ⟨some ⟨some pid, some 0⟩, none, none, none, none, none, none, none, none, none⟩

def pidExecution (pid : Int) : Execution := ⟨none, some (pidTarget pid), none, [], []⟩

/-- The execution of `pid` in a message with no boot session. -/
def bootlessMessage (pid : Int) : SantaMessage :=
  ⟨none, none, none, none, .execution (pidExecution pid)⟩

/-- A target with pid `pid` whose parent is `parent`, both at pidversion 0. -/
def childTarget (pid parent : Int) : ProcessInfo :=
  ⟨some ⟨some pid, some 0⟩, some ⟨some parent, some 0⟩, none, none, none, none, none, none, none,
    none⟩

def childExecution (pid parent : Int) : Execution := ⟨none, some (childTarget pid parent), none, [], []⟩

/-- The execution of `pid` under `parent`, in boot session `b1`. -/
def bootMessage (pid parent : Int) : SantaMessage :=
  ⟨none, some "b1", none, none, .execution (childExecution pid parent)⟩

/-- Pid 1 recorded at the epoch. -/
def parentStore : Store :=
  (newStore ⟨0, 0⟩).upsertFromExecution (some (bootMessage 1 0)) (some (childExecution 1 0)) 0

/-- Then pid 2, a child of pid 1, one nanosecond later. -/
def parentChildStore : Store :=
  parentStore.upsertFromExecution (some (bootMessage 2 1)) (some (childExecution 2 1)) 1

theorem lineage_same_boot_parentChild :
    (parentChildStore.lineage ⟨"b1", 2, 0⟩ 0).map List.length = some 2 ∧ Reachable parentChildStore ∧
      (∀ k n, (k, n) ∈ parentChildStore.nodes → parentChildStore.get? n.key = some n ∧
        (n.parent.isZero = true ∨ n.parent.bootUUID = n.key.bootUUID)) ∧
      ∀ (key : Key) (d : Int), ∀ n ∈ (parentChildStore.lineage key d).getD [],
        n.key.bootUUID = key.bootUUID :=
  have h : Reachable parentChildStore := .upsert _ _ _ (.upsert _ _ _ (.new _))
  ⟨by decide, h, lineage_same_boot h⟩

theorem oldestFrom_spec (acc : Key × Time) (l : List (Key × Node)) :
    (oldestFrom acc l).2 ≤ acc.2 ∧ (∀ x ∈ l, (oldestFrom acc l).2 ≤ x.2.createdAt) ∧
      (oldestFrom acc l = acc ∨ ∃ x ∈ l, oldestFrom acc l = (x.1, x.2.createdAt)) := by
  induction l generalizing acc with
  | nil => exact ⟨le_rfl, by simp, .inl rfl⟩
  | cons x l ih =>
    obtain ⟨k, n⟩ := x
    obtain ⟨h₁, h₂, h₃⟩ := ih (if n.createdAt < acc.2 then (k, n.createdAt) else acc)
    have hacc : (if n.createdAt < acc.2 then (k, n.createdAt) else acc).2 ≤ acc.2 ∧
        (if n.createdAt < acc.2 then (k, n.createdAt) else acc).2 ≤ n.createdAt := by
      split
      · exact ⟨le_of_lt ‹_›, le_rfl⟩
      · exact ⟨le_rfl, le_of_not_lt ‹_›⟩
    refine ⟨h₁.trans hacc.1, ?_, ?_⟩
    · intro y hy
      rcases List.mem_cons.mp hy with rfl | hy
      · exact h₁.trans hacc.2
      · exact h₂ y hy
    · simp only [oldestFrom]
      rcases h₃ with h₃ | ⟨y, hy, h₃⟩
      · by_cases hlt : n.createdAt < acc.2
        · rw [if_pos hlt] at h₃ ⊢; exact .inr ⟨(k, n), List.mem_cons_self _ _, h₃⟩
        · rw [if_neg hlt] at h₃ ⊢; exact .inl h₃
      · exact .inr ⟨y, List.mem_cons_of_mem _ hy, h₃⟩

theorem evictOldestLocked_eq {s : Store} (hne : s.nodes ≠ []) :
    ∃ k m, (k, m) ∈ s.nodes ∧ (∀ x ∈ s.nodes, m.createdAt ≤ x.2.createdAt) ∧
      s.evictOldestLocked = if k.isZero then s else s.delete k := by
  obtain ⟨⟨k, n⟩, rest, hs⟩ := List.exists_cons_of_ne_nil hne
  obtain ⟨h₁, h₂, h₃⟩ := oldestFrom_spec (k, n.createdAt) rest
  have hmin (m : Node) (hm : m.createdAt = (oldestFrom (k, n.createdAt) rest).2) :
      ∀ x ∈ s.nodes, m.createdAt ≤ x.2.createdAt := by
    rw [hs]
    intro x hx
    rcases List.mem_cons.mp hx with rfl | hx
    · exact hm ▸ h₁
    · exact hm ▸ h₂ x hx
  have he : s.evictOldestLocked = if (oldestFrom (k, n.createdAt) rest).1.isZero then s
      else s.delete (oldestFrom (k, n.createdAt) rest).1 := by
    unfold Store.evictOldestLocked; rw [hs]
  rcases h₃ with h₃ | ⟨x, hx, h₃⟩ <;> rw [h₃] at he hmin
  · exact ⟨k, n, hs ▸ List.mem_cons_self _ _, hmin n rfl, he⟩
  · exact ⟨x.1, x.2, hs ▸ List.mem_cons_of_mem _ hx, hmin x.2 rfl, he⟩

theorem evictOldestLocked_oldest (s : Store) :
    s.evictOldestLocked = s ∨ ∃ k m, (k, m) ∈ s.nodes ∧
      (∀ x ∈ s.nodes, m.createdAt ≤ x.2.createdAt) ∧ k.isZero = false ∧
      s.evictOldestLocked = s.delete k := by
  by_cases hne : s.nodes = []
  · left; unfold Store.evictOldestLocked; rw [hne]
  obtain ⟨k, m, hkm, hmin, he⟩ := evictOldestLocked_eq hne
  cases hz : k.isZero
  · exact .inr ⟨k, m, hkm, hmin, hz, by rw [he, hz]; rfl⟩
  · exact .inl (by rw [he, hz]; rfl)

theorem length_filter_key {l : List (Key × Node)} (hd : (l.map (·.1)).Nodup) {k : Key}
    {m : Node} (hk : (k, m) ∈ l) : (l.filter fun kn => kn.1 != k).length + 1 = l.length := by
  induction l with
  | nil => cases hk
  | cons x l ih =>
    obtain ⟨k', v⟩ := x
    rw [List.map_cons, List.nodup_cons] at hd
    by_cases he : k' = k
    · subst he
      have hl : (l.filter fun kn => kn.1 != k').length = l.length := by
        rw [List.filter_eq_self.mpr]
        intro kn hkn
        exact bne_iff_ne.mpr fun h : kn.1 = k' => hd.1 (h ▸ List.mem_map_of_mem (·.1) hkn)
      simp [List.filter_cons, hl]
    · have hk' : (k, m) ∈ l := by
        rcases List.mem_cons.mp hk with h | h
        · cases h; exact absurd rfl he
        · exact h
      simp [List.filter_cons, he, ih hd.2 hk']

theorem makeRoom_maxEntries (s : Store) (now : Time) : (s.makeRoom now).maxEntries = s.maxEntries := by
  have he : (s.evictExpiredLocked now).maxEntries = s.maxEntries := by
    unfold Store.evictExpiredLocked; split <;> rfl
  have ho (t : Store) : t.evictOldestLocked.maxEntries = t.maxEntries := by
    unfold Store.evictOldestLocked; split
    · rfl
    · dsimp only; split <;> rfl
  unfold Store.makeRoom; dsimp only; split
  · rw [ho, he]
  · exact he

theorem upsertFromExecution_maxEntries (s : Store) (msg : Option SantaMessage)
    (ev : Option Execution) (now : Time) :
    (s.upsertFromExecution msg ev now).maxEntries = s.maxEntries := by
  rcases upsertFromExecution_cases s msg ev now with he | ⟨node, -, -, he⟩ <;> rw [he]
  exact makeRoom_maxEntries s now

theorem makeRoom_length {s : Store} (h : WellFormed s.nodes)
    (hz : ∀ kn ∈ s.nodes, kn.1.isZero = false) (hb : (s.nodes.length : Int) ≤ s.maxEntries)
    (hpos : 0 < s.maxEntries) (now : Time) :
    ((s.makeRoom now).nodes.length : Int) + 1 ≤ s.maxEntries := by
  have hs₁ := evictExpiredLocked_sublist s now
  have hM : (s.evictExpiredLocked now).maxEntries = s.maxEntries := by
    unfold Store.evictExpiredLocked; split <;> rfl
  have hl₁ := hs₁.length_le
  unfold Store.makeRoom; dsimp only; rw [hM]
  split
  · rename_i hfull
    have hne : (s.evictExpiredLocked now).nodes ≠ [] := by
      intro h0; rw [h0] at hfull; simp at hfull; omega
    obtain ⟨k, m, hkm, -, hev⟩ := evictOldestLocked_eq hne
    rw [hev, hz (k, m) (hs₁.subset hkm)]
    have hk := length_filter_key (h.sublist hs₁).nodup hkm
    simp only [Store.delete, if_false, Bool.false_eq_true]
    omega
  · omega

theorem upsert_bounded {s : Store} (h : WellFormed s.nodes)
    (hz : ∀ kn ∈ s.nodes, kn.1.isZero = false) (hb : (s.nodes.length : Int) ≤ s.maxEntries)
    (hpos : 0 < s.maxEntries) (msg : Option SantaMessage) (ev : Option Execution) (now : Time)
    (hw : ∀ k ∈ writtenKey msg ev, k.isZero = false) :
    ((s.upsertFromExecution msg ev now).nodes.length : Int) ≤ s.maxEntries ∧
      ∀ kn ∈ (s.upsertFromExecution msg ev now).nodes, kn.1.isZero = false := by
  rcases upsertFromExecution_cases s msg ev now with he | ⟨node, hk, -, he⟩ <;> rw [he]
  · exact ⟨hb, hz⟩
  have hroom := makeRoom_length h hz hb hpos now
  have hsub := makeRoom_sublist s now
  refine ⟨?_, fun kn hkn => ?_⟩
  · have hset : (((s.makeRoom now).nodes.filter fun kn => kn.1 != node.key).length : Int) ≤
        (s.makeRoom now).nodes.length := by exact_mod_cast List.length_filter_le _ _
    simp only [Store.set, List.length_append, List.length_singleton]
    omega
  · rcases List.mem_append.mp hkn with hkn | hkn
    · exact hz kn (hsub.subset ((List.filter_sublist _).subset hkn))
    · rw [List.mem_singleton.mp hkn]
      exact hw node.key (by rw [hk]; rfl)

theorem upserts_within_max_entries (cfg : Config)
    (calls : List (Option SantaMessage × Option Execution × Time))
    (hw : ∀ c ∈ calls, ∀ k ∈ writtenKey c.1 c.2.1, k.isZero = false) :
    ((calls.foldl (fun s c => s.upsertFromExecution c.1 c.2.1 c.2.2) (newStore cfg)).nodes.length :
      Int) ≤ (newStore cfg).maxEntries := by
  have hpos : 0 < (newStore cfg).maxEntries := by
    unfold newStore; dsimp only; split <;> omega
  suffices ∀ s : Store, WellFormed s.nodes → (∀ kn ∈ s.nodes, kn.1.isZero = false) →
      (s.nodes.length : Int) ≤ s.maxEntries → s.maxEntries = (newStore cfg).maxEntries →
      ((calls.foldl (fun s c => s.upsertFromExecution c.1 c.2.1 c.2.2) s).nodes.length : Int) ≤
        (newStore cfg).maxEntries from
    this _ ⟨List.nodup_nil, by simp [newStore], by simp [newStore]⟩ (by simp [newStore])
      (by simp [newStore]; omega) rfl
  induction calls with
  | nil => intro s _ _ hb hM; rw [← hM]; exact hb
  | cons c calls ih =>
    intro s h hz hb hM
    obtain ⟨hb', hz'⟩ := upsert_bounded h hz hb (hM ▸ hpos) c.1 c.2.1 c.2.2
      (hw c (List.mem_cons_self _ _))
    exact ih (fun c hc => hw c (List.mem_cons_of_mem _ hc)) _ (h.upsert _ _ _) hz'
      (by rw [upsertFromExecution_maxEntries]; exact hb')
      (by rw [upsertFromExecution_maxEntries, hM])

theorem upserts_within_max_entries_one :
    (∀ c ∈ [(some (bootlessMessage 1), some (pidExecution 1), (0 : Time)),
        (some (bootlessMessage 2), some (pidExecution 2), 1)],
      ∀ k ∈ writtenKey c.1 c.2.1, k.isZero = false) ∧
    (([(some (bootlessMessage 1), some (pidExecution 1), (0 : Time)),
        (some (bootlessMessage 2), some (pidExecution 2), 1)].foldl
      (fun s c => s.upsertFromExecution c.1 c.2.1 c.2.2) (newStore ⟨1, 0⟩)).nodes.length : Int) ≤
      (newStore ⟨1, 0⟩).maxEntries :=
  have hw : ∀ c ∈ [(some (bootlessMessage 1), some (pidExecution 1), (0 : Time)),
      (some (bootlessMessage 2), some (pidExecution 2), 1)],
      ∀ k ∈ writtenKey c.1 c.2.1, k.isZero = false := by decide
  ⟨hw, upserts_within_max_entries ⟨1, 0⟩ _ hw⟩

theorem zero_key_exceeds_max_entries :
    (newStore ⟨1, 0⟩).maxEntries = 1 ∧
      (((newStore ⟨1, 0⟩).upsertFromExecution (some (bootlessMessage 0)) (some (pidExecution 0))
        0).upsertFromExecution (some (bootlessMessage 1)) (some (pidExecution 1)) 0).nodes.length =
        2 := by
  decide

end Santamon.Lineage
