import Santamon.Signals.Generator
import Santamon.Lineage.Walk

namespace Santamon.Signals

open Santamon.Events Santamon.Rules Santamon.Lineage

theorem serialize_getElem? (nodes : List Node) (i : Nat) {n : Node} (h : nodes[i]? = some n) :
    ∃ e, (serialize nodes)[i]? = some e ∧
      e.field? "relation" =
        some (.str (if i = 0 then "target" else if i = 1 then "parent" else "ancestor")) ∧
      e.field? "depth" = some (.num i) ∧ e.field? "pid" = some (.num n.key.pid) ∧
      e.field? "pidversion" = some (.num n.key.pidVersion) ∧ e.field? "path" = some (.str n.path) ∧
      e.field? "args" = if n.args.isEmpty then none else some (.list (n.args.map .str)) := by
  simp only [serialize, List.getElem?_map, List.getElem?_enum, h, Option.map_some',
    Option.some.injEq, exists_eq_left']
  split <;>
    simp [EventMap.field?, EventMap.put, List.lookup_cons, List.filter_cons, *]

theorem processTree_execution (host : String) (store : Store) {rule : Rule} {msg : SantaMessage}
    {ev : Execution} {target : ProcessInfo} {id : ProcessID} (he : msg.event = .execution ev)
    (ht : ev.target = some target) (hid : target.id = some id) (hr : rule.includeProcessTree = true) :
    processTree ⟨host, some store⟩ rule msg =
      let chain := (store.lineage (fromProcessID msg.getBootSessionUuid (some id)) 8).getD []
      if chain.isEmpty then none else some (.list ((serialize chain).map .obj)) := by
  simp only [processTree, he, hr, ht, hid, Option.some_bind]

theorem fromRuleMatch_process_tree {s : Store} (hs : Reachable s) (host : String) (m : Match)
    {ev : Execution} {target : ProcessInfo} {id : ProcessID}
    (he : m.message.event = .execution ev) (ht : ev.target = some target)
    (hid : target.id = some id) (hr : m.rule.includeProcessTree = true) (now now' : Time) :
    ∃ L, IsWalk (s.upsertFromExecution (some m.message) (some ev) now) 8 []
        (nodeOf m.message.getBootSessionUuid ev target id now) L ∧
      ((⟨host, some (s.upsertFromExecution (some m.message) (some ev) now)⟩ : Generator).fromRuleMatch
        m now').context.field? "process_tree" = some (.list ((serialize L).map .obj)) := by
  set node := nodeOf m.message.getBootSessionUuid ev target id now
  set store := s.upsertFromExecution (some m.message) (some ev) now
  have hstore : store = (s.makeRoom now).set node.key node := by
    simp only [store, Store.upsertFromExecution, ht, hid]
  have hget : store.get? node.key = some node := by rw [hstore]; exact Store.get?_set_self _ _ _
  have hk : ∀ k n, store.get? k = some n → n.key = k :=
    fun _ _ hn => ((reachable_wellFormed (.upsert _ _ now hs)).get? hn).1
  have hchain : store.lineage node.key 8 = some (store.chain 8 node []) := lineage_eq_chain hget 8
  refine ⟨store.chain 8 node [], chain_isWalk hk 7 node [] (List.not_mem_nil _), ?_⟩
  have hne : (store.chain 8 node []).isEmpty = false := by
    have hh := chain_head? store 7 node []
    cases hc : store.chain 8 node [] with
    | nil => rw [hc] at hh; cases hh
    | cons _ _ => rfl
  have htree := processTree_execution host store he ht hid hr
  rw [show fromProcessID m.message.getBootSessionUuid (some id) = node.key from rfl, hchain] at htree
  simp only [Option.getD_some, hne, Bool.false_eq_true, if_false] at htree
  simp only [Generator.fromRuleMatch, htree, EventMap.field?_put_self]

/-- A rule that asks for the process tree, and its match for the execution of pid 2. -/
def treeRule : Rule := ⟨"R1", "tree", "", "true", "low", [], true, [], false, true⟩

def treeMatch : Match := ⟨"R1", "tree", "low", [], bootMessage 2 1, 0, treeRule⟩

theorem fromRuleMatch_process_tree_child :
    (parentChildStore.lineage ⟨"b1", 2, 0⟩ 8).map List.length = some 2 ∧ Reachable parentStore ∧
      treeMatch.message.event = .execution (childExecution 2 1) ∧
      (childExecution 2 1).target = some (childTarget 2 1) ∧
      (childTarget 2 1).id = some ⟨some 2, some 0⟩ ∧ treeMatch.rule.includeProcessTree = true ∧
      ∃ L, IsWalk (parentStore.upsertFromExecution (some treeMatch.message)
          (some (childExecution 2 1)) 1) 8 []
          (nodeOf treeMatch.message.getBootSessionUuid (childExecution 2 1) (childTarget 2 1)
            ⟨some 2, some 0⟩ 1) L ∧
        ((⟨"host", some (parentStore.upsertFromExecution (some treeMatch.message)
          (some (childExecution 2 1)) 1)⟩ : Generator).fromRuleMatch treeMatch 0).context.field?
            "process_tree" = some (.list ((serialize L).map .obj)) :=
  have hs : Reachable parentStore := .upsert _ _ _ (.new _)
  ⟨by decide, hs, rfl, rfl, rfl, rfl,
    fromRuleMatch_process_tree hs "host" treeMatch rfl rfl rfl rfl 1 0⟩

end Santamon.Signals
