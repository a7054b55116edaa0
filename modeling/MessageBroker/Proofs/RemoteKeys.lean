/-
# What a node knows of the others

How the keys that a node holds for another one change when it hears from it. Nodes do not
disturb each other here: what one node tells changes only the keys held for it.
-/

import MessageBroker.Broker.Peers

open Std

namespace MessageBroker

namespace RemoteKeys

/-- Another node told of a change of its keys. -/
def receive (r : RemoteKeys) (peer : PeerId) (change : KeyChange) : RemoteKeys :=
  match change.kind with
  | .added => r.add peer change.key
  | .removed => r.remove peer change.key

variable {r : RemoteKeys} {peer : PeerId} {key told : SubscriptionKey}

theorem keys_assign (r : RemoteKeys) (peer : PeerId) (keys : ExtTreeSet SubscriptionKey) :
    (r.assign peer keys).keys peer = keys := by
  unfold assign
  by_cases hempty : keys = ∅
  · simp [hempty, RemoteKeys.keys]
  · simp [ExtTreeSet.isEmpty_iff, hempty, RemoteKeys.keys]

theorem mem_keys_add : key ∈ (r.add peer told).keys peer ↔ key = told ∨ key ∈ r.keys peer := by
  simp only [add, keys, ExtTreeMap.getElem?_insert_self, Option.getD_some, ExtTreeSet.mem_insert,
    Std.compare_eq_iff_eq]
  exact or_congr_left eq_comm

theorem mem_keys_remove :
    key ∈ (r.remove peer told).keys peer ↔ key ≠ told ∧ key ∈ r.keys peer := by
  cases hpeer : r.peers[peer]? with
  | none => simp [remove, hpeer, keys]
  | some held =>
    have hkeys : (r.remove peer told).keys peer = held.erase told := by
      simp only [remove, hpeer, keys_assign]
    rw [hkeys, keys, hpeer, Option.getD_some, ExtTreeSet.mem_erase, ne_eq, Std.compare_eq_iff_eq]
    exact and_congr_left fun _ => not_congr eq_comm

/-- What is held for a node after it told of a change. -/
theorem mem_keys_receive {change : KeyChange} :
    key ∈ (r.receive peer change).keys peer ↔
      if key = change.key then change.kind = .added else key ∈ r.keys peer := by
  unfold receive
  cases hkind : change.kind with
  | added =>
    rw [mem_keys_add]
    split <;> simp_all
  | removed =>
    rw [mem_keys_remove]
    split <;> simp_all

theorem mem_keys_replace {told : List SubscriptionKey} :
    key ∈ (r.replace peer told).keys peer ↔ key ∈ told := by
  rw [replace, keys_assign, ExtTreeSet.mem_ofList, List.contains_iff_mem]

/-- The listing of the other nodes has for each of them what is held for it. -/
theorem mem_toList {keys : List SubscriptionKey} :
    (peer, keys) ∈ r.toList ↔ ∃ held, r.peers[peer]? = some held ∧ keys = held.toList := by
  simp only [toList, List.mem_map, Prod.mk.injEq, Prod.exists,
    ExtTreeMap.mem_toList_iff_getElem?_eq_some]
  constructor
  · rintro ⟨p, held, hheld, rfl, rfl⟩
    exact ⟨held, hheld, rfl⟩
  · rintro ⟨held, hheld, rfl⟩
    exact ⟨peer, held, hheld, rfl, rfl⟩

theorem pairwise_toList (r : RemoteKeys) :
    r.toList.Pairwise fun p q => p.1 < q.1 := by
  rw [toList, List.pairwise_map]
  refine r.peers.ordered_keys_toList.imp ?_
  intro p q hlt
  exact Nat.compare_eq_lt.mp hlt

end RemoteKeys

end MessageBroker
