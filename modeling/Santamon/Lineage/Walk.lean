import Santamon.Lineage.Invariant

namespace Santamon.Lineage

open Santamon.Events

variable {s : Store}

theorem Store.get?_set_self (s : Store) (k : Key) (n : Node) : (s.set k n).get? k = some n := by
  simp only [Store.get?, Store.set]
  induction s.nodes with
  | nil => simp [List.lookup_cons]
  | cons kn l ih =>
    obtain ⟨k', n'⟩ := kn
    by_cases h : k' = k
    · simp [List.filter_cons, h, ih]
    · simp [List.filter_cons, h, List.lookup_cons, beq_false_of_ne (Ne.symm h), ih]

theorem key_of_get? (h : ∀ kn ∈ s.nodes, kn.2.key = kn.1) :
    ∀ k n, s.get? k = some n → n.key = k :=
  fun _ _ hn => h _ (mem_of_lookup hn)

/-- A walk of `Lineage` from `start` in at most `D` nodes, after the keys `seen`. -/
structure IsWalk (s : Store) (D : Nat) (seen : List Key) (start : Node) (L : List Node) :
    Prop where
  head : L.head? = some start
  length_le : L.length ≤ D
  nodup : (L.map Node.key).Nodup
  fresh : ∀ n ∈ L, n.key ∉ seen
  links : L.Chain' fun a b => a.parent.isZero = false ∧ s.get? a.parent = some b
  stop : ∀ nm ∈ L.getLast?, L.length = D ∨ nm.parent.isZero = true ∨ s.get? nm.parent = none ∨
    nm.parent ∈ L.map Node.key ++ seen

theorem IsWalk.single {D : Nat} {seen : List Key} {start : Node} (hD : 1 ≤ D)
    (hc : start.key ∉ seen)
    (hstop : 1 = D ∨ start.parent.isZero = true ∨ s.get? start.parent = none ∨
      start.parent ∈ start.key :: seen) :
    IsWalk s D seen start [start] :=
  ⟨rfl, hD, by simp, by simpa using hc, List.Chain.nil, by simpa using hstop⟩

theorem IsWalk.cons {D : Nat} {seen : List Key} {current next : Node} {L : List Node}
    (h : IsWalk s D (current.key :: seen) next L) (hc : current.key ∉ seen)
    (hz : current.parent.isZero = false) (hp : s.get? current.parent = some next) :
    IsWalk s (D + 1) seen current (current :: L) := by
  obtain ⟨rest, rfl⟩ : ∃ rest, L = next :: rest := by
    cases L with
    | nil => cases h.head
    | cons a rest => cases h.head; exact ⟨rest, rfl⟩
  refine ⟨rfl, by simpa using h.length_le, ?_, ?_, .cons ⟨hz, hp⟩ h.links, ?_⟩
  · rw [List.map_cons, List.nodup_cons]
    refine ⟨fun hm => ?_, h.nodup⟩
    obtain ⟨n, hn, hnk⟩ := List.mem_map.mp hm
    exact h.fresh n hn (hnk ▸ List.mem_cons_self _ _)
  · intro n hn
    rcases List.mem_cons.mp hn with rfl | hn
    · exact hc
    · exact fun hm => h.fresh n hn (List.mem_cons_of_mem _ hm)
  · intro nm hnm
    rw [List.getLast?_cons_cons] at hnm
    rcases h.stop nm hnm with h' | h' | h' | h'
    · exact .inl (by simp only [List.length_cons, h'])
    · exact .inr (.inl h')
    · exact .inr (.inr (.inl h'))
    · refine .inr (.inr (.inr ?_))
      simp only [List.map_cons, List.mem_append, List.mem_cons] at h' ⊢
      tauto

theorem chain_isWalk (hk : ∀ k n, s.get? k = some n → n.key = k) (fuel : Nat) (current : Node)
    (seen : List Key) (hc : current.key ∉ seen) :
    IsWalk s (fuel + 1) seen current (s.chain (fuel + 1) current seen) := by
  induction fuel generalizing current seen with
  | zero =>
    have he : s.chain 1 current seen = [current] := by
      simp only [Store.chain]
      split <;> [rfl; split <;> [rfl; split <;> rfl]]
    exact he ▸ .single le_rfl hc (.inl rfl)
  | succ fuel ih =>
    by_cases hz : current.parent.isZero = true
    · have he : s.chain (fuel + 1 + 1) current seen = [current] := by simp [Store.chain, hz]
      exact he ▸ .single (by omega) hc (.inr (.inl hz))
    cases hp : s.get? current.parent with
    | none =>
      have he : s.chain (fuel + 1 + 1) current seen = [current] := by simp [Store.chain, hz, hp]
      exact he ▸ .single (by omega) hc (.inr (.inr (.inl hp)))
    | some next =>
      by_cases hs : next.key ∈ current.key :: seen
      · have he : s.chain (fuel + 1 + 1) current seen = [current] := by
          simp [Store.chain, hz, hp, hs]
        exact he ▸ .single (by omega) hc (.inr (.inr (.inr (hk _ _ hp ▸ hs))))
      have he : s.chain (fuel + 1 + 1) current seen =
          current :: s.chain (fuel + 1) next (current.key :: seen) := by
        simp [Store.chain, hz, hp, hs]
      exact he ▸ (ih next (current.key :: seen) hs).cons hc (by simpa using hz) hp

theorem lineage_eq_chain {s : Store} {key : Key} {n₀ : Node} (h : s.get? key = some n₀) (d : Int) :
    s.lineage key d = some (s.chain (if d ≤ 0 then 8 else d).toNat n₀ []) := by
  have hne : s.nodes.isEmpty = false := by
    cases hn : s.nodes with
    | nil => simp [Store.get?, hn] at h
    | cons _ _ => rfl
  simp [Store.lineage, hne, h]

theorem depth_toNat (d : Int) : ∃ m, (if d ≤ 0 then 8 else d).toNat = m + 1 :=
  ⟨(if d ≤ 0 then 8 else d).toNat - 1, by split <;> omega⟩

theorem lineage_walk (s : Store) (hk : ∀ k n, s.get? k = some n → n.key = k) (key : Key)
    (d : Int) :
    (s.nodes = [] → s.lineage key d = none) ∧
      (s.nodes ≠ [] → s.get? key = none → s.lineage key d = some []) ∧
      ∀ n₀, s.get? key = some n₀ →
        ∃ L, s.lineage key d = some L ∧ IsWalk s (if d ≤ 0 then 8 else d).toNat [] n₀ L := by
  refine ⟨fun h => by simp [Store.lineage, h], fun hn h => by simp [Store.lineage, hn, h], ?_⟩
  intro n₀ h
  obtain ⟨m, hm⟩ := depth_toNat d
  rw [lineage_eq_chain h, hm]
  exact ⟨_, rfl, chain_isWalk hk m n₀ [] (List.not_mem_nil _)⟩

/-- A node with key `k`, parent `p` and no other field set. -/
def linkNode (k p : Key) : Node := ⟨k, p, Key.zero, "", "", 0, "", 0, 0, [], 0, 0⟩

/-- Two processes of boot session `b`, each cached as the parent of the other. -/
def cycleStore : Store :=
  ⟨[(⟨"b", 1, 0⟩, linkNode ⟨"b", 1, 0⟩ ⟨"b", 2, 0⟩), (⟨"b", 2, 0⟩, linkNode ⟨"b", 2, 0⟩ ⟨"b", 1, 0⟩)],
    50000, 3600000000000⟩

theorem lineage_walk_cycle :
    (∀ k n, cycleStore.get? k = some n → n.key = k) ∧
      (cycleStore.nodes = [] → cycleStore.lineage ⟨"b", 1, 0⟩ 0 = none) ∧
      (cycleStore.nodes ≠ [] → cycleStore.get? ⟨"b", 1, 0⟩ = none →
        cycleStore.lineage ⟨"b", 1, 0⟩ 0 = some []) ∧
      ∀ n₀, cycleStore.get? ⟨"b", 1, 0⟩ = some n₀ →
        ∃ L, cycleStore.lineage ⟨"b", 1, 0⟩ 0 = some L ∧
          IsWalk cycleStore (if (0 : Int) ≤ 0 then 8 else (0 : Int)).toNat [] n₀ L :=
  ⟨key_of_get? (by decide), lineage_walk cycleStore (key_of_get? (by decide)) ⟨"b", 1, 0⟩ 0⟩

example : cycleStore.lineage ⟨"b", 1, 0⟩ 0 =
    some [linkNode ⟨"b", 1, 0⟩ ⟨"b", 2, 0⟩, linkNode ⟨"b", 2, 0⟩ ⟨"b", 1, 0⟩] := by
  decide

theorem chain_head? (t : Store) (fuel : Nat) (current : Node) (seen : List Key) :
    (t.chain (fuel + 1) current seen).head? = some current := rfl

theorem chain_eq_single (t : Store) (fuel : Nat) {current : Node} {seen : List Key}
    (h : current.parent.isZero = true ∨ t.get? current.parent = none ∨
      ∃ next, t.get? current.parent = some next ∧ next.key ∈ current.key :: seen) :
    t.chain (fuel + 1) current seen = [current] := by
  cases fuel with
  | zero => simp only [Store.chain]; split <;> [rfl; split <;> [rfl; split <;> rfl]]
  | succ fuel =>
    rcases h with hz | hp | ⟨next, hp, hs⟩
    · simp [Store.chain, hz]
    · simp [Store.chain, hp]
    · simp [Store.chain, hp, hs]

theorem upsert_then_lineage (s : Store) (msg : SantaMessage) {ev : Execution}
    {target : ProcessInfo} {id : ProcessID} (ht : ev.target = some target)
    (hid : target.id = some id) (now : Time) (d : Int) :
    ∃ L, (s.upsertFromExecution (some msg) (some ev) now).lineage
        (fromProcessID msg.getBootSessionUuid target.id) d = some L ∧
      L.head? = some (nodeOf msg.getBootSessionUuid ev target id now) ∧
      ((nodeOf msg.getBootSessionUuid ev target id now).parent.isZero = true ∨
          (s.upsertFromExecution (some msg) (some ev) now).get?
            (nodeOf msg.getBootSessionUuid ev target id now).parent = none ∨
          (nodeOf msg.getBootSessionUuid ev target id now).parent =
            fromProcessID msg.getBootSessionUuid target.id →
        L = [nodeOf msg.getBootSessionUuid ev target id now]) := by
  have hs : s.upsertFromExecution (some msg) (some ev) now =
      (s.makeRoom now).set (nodeOf msg.getBootSessionUuid ev target id now).key
        (nodeOf msg.getBootSessionUuid ev target id now) := by
    simp [Store.upsertFromExecution, ht, hid]
  rw [hid, hs]
  set node := nodeOf msg.getBootSessionUuid ev target id now
  have hkey : node.key = fromProcessID msg.getBootSessionUuid (some id) := rfl
  have hget : ((s.makeRoom now).set node.key node).get? node.key = some node :=
    Store.get?_set_self _ _ _
  obtain ⟨m, hm⟩ := depth_toNat d
  rw [← hkey, lineage_eq_chain hget, hm]
  refine ⟨_, rfl, chain_head? _ _ _ _, fun h => chain_eq_single _ _ ?_⟩
  rcases h with hz | hp | he
  · exact .inl hz
  · exact .inr (.inl hp)
  · exact .inr (.inr ⟨node, by rw [he]; exact hget, List.mem_singleton_self _⟩)

/-- The node `parentChildStore` writes for pid 2. -/
def childNode : Node :=
  nodeOf (bootMessage 2 1).getBootSessionUuid (childExecution 2 1) (childTarget 2 1) ⟨some 2, some 0⟩ 1

theorem upsert_then_lineage_child :
    (parentChildStore.lineage ⟨"b1", 2, 0⟩ 0).map List.length = some 2 ∧
      (childExecution 2 1).target = some (childTarget 2 1) ∧
      (childTarget 2 1).id = some ⟨some 2, some 0⟩ ∧
      ∃ L, parentChildStore.lineage
          (fromProcessID (bootMessage 2 1).getBootSessionUuid (childTarget 2 1).id) 0 = some L ∧
        L.head? = some childNode ∧
        (childNode.parent.isZero = true ∨ parentChildStore.get? childNode.parent = none ∨
            childNode.parent = fromProcessID (bootMessage 2 1).getBootSessionUuid (childTarget 2 1).id →
          L = [childNode]) :=
  ⟨by decide, rfl, rfl, @upsert_then_lineage parentStore (bootMessage 2 1) (childExecution 2 1)
    (childTarget 2 1) ⟨some 2, some 0⟩ rfl rfl 1 0⟩

example : ((newStore ⟨0, 0⟩).upsertFromExecution (some (bootlessMessage 1))
    (some (pidExecution 1)) 0).lineage ⟨"", 1, 0⟩ 0 =
      some [nodeOf "" (pidExecution 1) (pidTarget 1) ⟨some 1, some 0⟩ 0] := by
  decide

end Santamon.Lineage
