/-
# News of other nodes

What a node knows of the others is made by what it hears from them: that a key appeared or
went, the list of all keys, or that a node has left. As seen from outside it is a map from
nodes to sets of keys, and each piece of news changes the set of the node that it is about.

A node whose last key has gone is forgotten, whichever way the key went, so the nodes that are
listed are those with keys. A list of all keys says as much as leaving and announcing the keys
one by one, in any order and as often as one likes.
-/

import Mathlib.Data.Set.Insert
import Mathlib.Logic.Function.Basic
import MessageBroker.Proofs.Maps
import MessageBroker.Proofs.RemoteKeys

open Std

namespace MessageBroker

/-- What may be heard of another node. -/
inductive News where
  | announced (peer : PeerId) (key : SubscriptionKey)
  | withdrew (peer : PeerId) (key : SubscriptionKey)
  | sent (peer : PeerId) (keys : List SubscriptionKey)
  | left (peer : PeerId)

namespace News

/-- The node that news are about. -/
def peer : News → PeerId
  | announced peer _ | withdrew peer _ | sent peer _ | left peer => peer

/-- What becomes of the set of keys of the node. -/
def revise : News → Set SubscriptionKey → Set SubscriptionKey
  | announced _ key, held => insert key held
  | withdrew _ key, held => held \ {key}
  | sent _ keys, _ => {key | key ∈ keys}
  | left _, _ => ∅

/-- What becomes of the sets of keys of all nodes. -/
def reviseAt (n : News) (held : PeerId → Set SubscriptionKey) : PeerId → Set SubscriptionKey :=
  Function.update held n.peer (n.revise (held n.peer))

end News

namespace RemoteKeys

variable {r : RemoteKeys} {peer : PeerId} {key : SubscriptionKey}
  {known : ExtTreeSet SubscriptionKey}

/-- Takes note of news. -/
def hear (r : RemoteKeys) : News → RemoteKeys
  | .announced peer key => r.add peer key
  | .withdrew peer key => r.remove peer key
  | .sent peer keys => r.replace peer keys
  | .left peer => r.removePeer peer

/-- The set of keys that is held for each node. -/
def held (r : RemoteKeys) (peer : PeerId) : Set SubscriptionKey := {key | key ∈ r.keys peer}

/-- No node is known without keys. -/
def Tight (r : RemoteKeys) : Prop := ∀ peer : PeerId, r.peers[peer]? ≠ some ∅

/-! ## One piece of news -/

theorem getElem?_assign (r : RemoteKeys) (peer other : PeerId) :
    (r.assign peer known).peers[other]? =
      if peer = other then if known.isEmpty then none else some known else r.peers[other]? := by
  rw [assign]
  split
  · exact Maps.getElem?_erase_ite r.peers peer other
  · exact Maps.getElem?_insert_ite r.peers peer other known

/-- Nodes that news are not about stay as they are. -/
theorem getElem?_hear_of_ne {n : News} (h : peer ≠ n.peer) :
    (r.hear n).peers[peer]? = r.peers[peer]? := by
  cases n with
  | announced other key =>
    exact (Maps.getElem?_insert_ite r.peers other peer _).trans (if_neg h.symm)
  | withdrew other key =>
    rw [hear, remove]
    split
    · rfl
    · exact (getElem?_assign r other peer).trans (if_neg h.symm)
  | sent other keys => exact (getElem?_assign r other peer).trans (if_neg h.symm)
  | left other => exact (Maps.getElem?_erase_ite r.peers other peer).trans (if_neg h.symm)

theorem held_hear_self (n : News) : (r.hear n).held n.peer = n.revise (r.held n.peer) := by
  ext key
  cases n with
  | announced peer told => exact mem_keys_add
  | withdrew peer told => exact mem_keys_remove.trans and_comm
  | sent peer told => exact mem_keys_replace
  | left peer =>
    show key ∈ (r.removePeer peer).keys peer ↔ key ∈ (∅ : Set SubscriptionKey)
    simp [removePeer, keys]

/-- News change the keys of the node that they are about as they say. -/
theorem held_hear (r : RemoteKeys) (n : News) : (r.hear n).held = n.reviseAt r.held := by
  funext peer
  by_cases h : peer = n.peer
  · rw [h, News.reviseAt, Function.update_self, held_hear_self]
  · rw [News.reviseAt, Function.update_of_ne h, held, keys, getElem?_hear_of_ne h]
    rfl

theorem tight_empty : Tight empty := by simp [Tight, empty]

theorem Tight.assign (h : r.Tight) (peer : PeerId) : (r.assign peer known).Tight := by
  intro other
  rw [getElem?_assign]
  split
  · split
    · exact nofun
    next hkeys => exact fun heq => hkeys (ExtTreeSet.isEmpty_iff.mpr (Option.some.inj heq))
  · exact h other

/-- Whatever is heard, no node remains without keys. -/
theorem Tight.hear (h : r.Tight) (n : News) : (r.hear n).Tight := by
  cases n with
  | announced peer key =>
    intro other
    rw [RemoteKeys.hear, add, Maps.getElem?_insert_ite]
    split
    · intro heq
      have hmem : key ∈ (r.keys peer).insert key := ExtTreeSet.mem_insert_self
      rw [Option.some.inj heq] at hmem
      exact ExtTreeSet.not_mem_empty hmem
    · exact h other
  | withdrew peer key =>
    rw [RemoteKeys.hear, remove]
    split
    · exact h
    · exact h.assign peer
  | sent peer keys => exact h.assign peer
  | left peer =>
    intro other
    rw [RemoteKeys.hear, removePeer, Maps.getElem?_erase_ite]
    split
    · exact (Option.some_ne_none _).symm
    · exact h other

/-! ## Listings -/

/-- The nodes that are listed are those with keys. -/
theorem Tight.mem_peerIds (h : r.Tight) : peer ∈ r.peerIds ↔ (r.held peer).Nonempty := by
  rw [peerIds, ExtTreeMap.mem_keys, ExtTreeMap.mem_iff_isSome_getElem?]
  cases hpeer : r.peers[peer]? with
  | none => simp [held, keys, hpeer]
  | some known =>
    have hne : known ≠ ∅ := fun hempty => h peer (hempty ▸ hpeer)
    obtain ⟨key, hkey⟩ := List.exists_mem_of_ne_nil known.toList fun hnil =>
      hne (ExtTreeSet.isEmpty_iff.mp (ExtTreeSet.isEmpty_toList.symm.trans (hnil ▸ rfl)))
    simp only [Option.isSome_some, true_iff]
    refine ⟨key, ?_⟩
    show key ∈ r.keys peer
    rw [keys, hpeer]
    exact ExtTreeSet.mem_toList.mp hkey

theorem map_fst_toList (r : RemoteKeys) : r.toList.map Prod.fst = r.peerIds := by
  rw [toList, List.map_map, peerIds, ← ExtTreeMap.map_fst_toList_eq_keys]
  rfl

theorem pairwise_peerIds (r : RemoteKeys) : r.peerIds.Pairwise (· < ·) := by
  rw [← map_fst_toList, List.pairwise_map]
  exact pairwise_toList r

/-- What is known is the map from nodes to sets of keys, each node with keys once and in
ascending order. -/
structure Represents (r : RemoteKeys) (sets : PeerId → Set SubscriptionKey) : Prop where
  held : ∀ peer, r.held peer = sets peer
  mem_peerIds : ∀ peer, peer ∈ r.peerIds ↔ (sets peer).Nonempty
  ascending : r.peerIds.Pairwise (· < ·)
  /-- Both listings have the same nodes in the same order. -/
  listed : r.toList.map Prod.fst = r.peerIds
  listings : ∀ {peer keys}, (peer, keys) ∈ r.toList →
    keys.Nodup ∧ ∀ key, key ∈ keys ↔ key ∈ sets peer

theorem Tight.represents (h : r.Tight) : r.Represents r.held where
  held _ := rfl
  mem_peerIds _ := h.mem_peerIds
  ascending := pairwise_peerIds r
  listed := map_fst_toList r
  listings {peer keys} hlisted := by
    obtain ⟨known, hknown, rfl⟩ := mem_toList.mp hlisted
    refine ⟨known.distinct_toList.imp fun hne heq => hne (compare_eq_iff_eq.mpr heq),
      fun key => ?_⟩
    rw [held, Set.mem_ofPred_eq, RemoteKeys.keys, hknown]
    exact ExtTreeSet.mem_toList

/-! ## News one after the other -/

/-- Takes note of news in their order. -/
def hearAll (r : RemoteKeys) (news : List News) : RemoteKeys := news.foldl hear r

theorem held_hearAll (news : List News) (r : RemoteKeys) :
    (r.hearAll news).held = news.foldl (fun sets n => n.reviseAt sets) r.held := by
  induction news generalizing r with
  | nil => rfl
  | cons n news ih =>
    rw [List.foldl_cons, ← held_hear]
    exact ih (r.hear n)

theorem Tight.hearAll (h : r.Tight) (news : List News) : (r.hearAll news).Tight := by
  induction news generalizing r with
  | nil => exact h
  | cons n news ih => exact ih (h.hear n)

/-! ## All keys at once, or one by one -/

theorem Tight.getElem? (h : r.Tight) (peer : PeerId) :
    r.peers[peer]? = if (r.keys peer).isEmpty then none else some (r.keys peer) := by
  rw [keys]
  cases hpeer : r.peers[peer]? with
  | none => rfl
  | some known =>
    have hne : known.isEmpty = false :=
      Bool.eq_false_iff.mpr fun hempty => h peer (ExtTreeSet.isEmpty_iff.mp hempty ▸ hpeer)
    rw [Option.getD_some, hne, if_neg Bool.false_ne_true]

/-- Where no node is known without keys, the sets of keys are all that is known. -/
theorem Tight.eq_of_held_eq {r' : RemoteKeys} (h : r.Tight) (h' : r'.Tight)
    (hheld : r.held = r'.held) : r = r' := by
  have hkeys (peer : PeerId) : r.keys peer = r'.keys peer :=
    ExtTreeSet.ext_mem fun key => Set.ext_iff.mp (congrFun hheld peer) key
  refine congrArg RemoteKeys.mk (ExtTreeMap.ext_getElem? fun peer => ?_)
  rw [h.getElem? peer, h'.getElem? peer, hkeys]

/-- The news that a node has announced keys one by one. -/
def announcing (peer : PeerId) (told : List SubscriptionKey) : List News :=
  told.map (.announced peer)

theorem hearAll_announcing (peer : PeerId) (told : List SubscriptionKey) (r : RemoteKeys) :
    r.hearAll (announcing peer told) = told.foldl (fun r key => r.add peer key) r := by
  rw [hearAll, announcing, List.foldl_map]
  rfl

theorem held_announcing (peer : PeerId) (told : List SubscriptionKey) (r : RemoteKeys) :
    (r.hearAll (announcing peer told)).held =
      Function.update r.held peer (r.held peer ∪ {key | key ∈ told}) := by
  induction told generalizing r with
  | nil =>
    show r.held = _
    simp
  | cons key told ih =>
    have hfirst : (r.hear (.announced peer key)).held =
        Function.update r.held peer (insert key (r.held peer)) := held_hear r _
    show ((r.hear (.announced peer key)).hearAll (announcing peer told)).held = _
    rw [ih, hfirst, Function.update_idem, Function.update_self]
    congr 1
    ext other
    rw [Set.mem_union, Set.mem_union, Set.mem_ofPred_eq, Set.mem_ofPred_eq, List.mem_cons,
      Set.mem_insert_iff, or_assoc, or_left_comm]

/-- A list of all keys says as much as leaving and announcing the keys in any order and with
any repetition. -/
theorem Tight.replace_eq (h : r.Tight) (peer : PeerId) {all told : List SubscriptionKey}
    (hsame : ∀ key, key ∈ told ↔ key ∈ all) :
    r.replace peer all = told.foldl (fun r key => r.add peer key) (r.removePeer peer) := by
  rw [← hearAll_announcing]
  refine (h.hear (.sent peer all)).eq_of_held_eq ((h.hear (.left peer)).hearAll _) ?_
  have hleft : (r.removePeer peer).held = Function.update r.held peer ∅ := held_hear r (.left peer)
  show (r.hear (.sent peer all)).held = ((r.removePeer peer).hearAll _).held
  rw [held_announcing, hleft, Function.update_idem, Function.update_self, Set.empty_union,
    show {key | key ∈ told} = {key | key ∈ all} from Set.ext hsame]
  exact held_hear r (.sent peer all)

/-- Whatever was heard, what is known of the other nodes is the map from nodes to sets of keys
that the news make of nothing. Further news change what is known of the node that they are about
and of no other, and a list of all keys of a node says as much as its leaving and announcing
these keys, in any order and with any repetition. -/
theorem represents_hearAll (news : List News) :
    (empty.hearAll news).Represents (news.foldl (fun sets n => n.reviseAt sets) fun _ => ∅) ∧
      (∀ (n : News) (peer : PeerId), peer ≠ n.peer →
        ((empty.hearAll news).hear n).peers[peer]? = (empty.hearAll news).peers[peer]?) ∧
      ∀ (peer : PeerId) (all told : List SubscriptionKey), (∀ key, key ∈ told ↔ key ∈ all) →
        (empty.hearAll news).replace peer all =
          told.foldl (fun r key => r.add peer key) ((empty.hearAll news).removePeer peer) := by
  have htight : (empty.hearAll news).Tight := tight_empty.hearAll news
  have hblank : empty.held = fun _ => ∅ := by
    funext peer
    simp [held, keys, empty]
  refine ⟨?_, fun n peer hne => getElem?_hear_of_ne hne,
    fun peer all told hsame => htight.replace_eq peer hsame⟩
  rw [← hblank, ← held_hearAll]
  exact htight.represents

/-- Two nodes have announced a key, and one of them has withdrawn it. -/
def gossip : List News :=
  [.announced 2 ⟨none, some "a.*"⟩, .announced 1 ⟨none, some "b"⟩, .withdrew 1 ⟨none, some "b"⟩]

theorem represents_hearAll_gossip :
    (empty.hearAll gossip).peerIds = [2] ∧
      ((empty.hearAll gossip).hear (.left 1)).peers[2]? = (empty.hearAll gossip).peers[2]? ∧
      (empty.hearAll gossip).replace 2 [⟨none, some "x"⟩, ⟨none, some "y"⟩] =
        [⟨none, some "y"⟩, ⟨none, some "x"⟩, ⟨none, some "y"⟩].foldl (fun r key => r.add 2 key)
          ((empty.hearAll gossip).removePeer 2) := by
  obtain ⟨-, hother, hall⟩ := represents_hearAll gossip
  refine ⟨rfl, hother (.left 1) 2 (by decide), hall 2 _ _ fun key => ?_⟩
  grind

end RemoteKeys

end MessageBroker
