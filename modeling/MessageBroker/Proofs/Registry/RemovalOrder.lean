/-
# The order of removals

The numbers of a client's subscriptions come out of a set, and the set decides in which order
they are removed. Each removal answers whether it took the last subscription with its key, which
it reads from a counter that the removals before it have changed. None of this lets the order
show: a client has no filter twice, so whether a key goes with one of its subscriptions depends
on the other clients alone, and those are not touched.

What is left does not depend on the order either, since a registry holds nothing that its
subscriptions do not determine. Only the queue remembers what went first; its new entries are
the same in another order.
-/

import MessageBroker.Proofs.Registry.Answers
import MessageBroker.Proofs.Registry.Withdrawal

open Std

namespace MessageBroker

/-! ## What subscriptions determine -/

namespace IdIndex

variable {κ : Type} [Ord κ] [TransOrd κ] [LawfulEqOrd κ]
  {index index' : IdIndex κ} {subs : ExtTreeMap SubscriptionId Subscription}
  {classOf : Subscription → Option κ}

/-- Two indexes that follow the same subscriptions by the same classes are one. -/
theorem Follows.unique (h : index.Follows subs classOf) (h' : index'.Follows subs classOf) :
    index = index' := by
  apply ExtTreeMap.ext_getElem?
  intro k
  have hunder : index.under k = index'.under k := by
    apply ExtTreeSet.ext_mem
    intro id
    rw [h.mem_under, h'.mem_under]
  have htight := h.tight k
  have htight' := h'.tight k
  rw [under, under] at hunder
  cases hk : index[k]? with
  | none =>
    cases hk' : index'[k]? with
    | none => rfl
    | some ids =>
      rw [hk, hk'] at hunder
      exact absurd (hk'.trans (congrArg some hunder.symm)) htight'
  | some ids =>
    cases hk' : index'[k]? with
    | none =>
      rw [hk, hk'] at hunder
      exact absurd (hk.trans (congrArg some hunder)) htight
    | some ids' =>
      rw [hk, hk'] at hunder
      exact congrArg some hunder

end IdIndex

namespace Registry

variable {r r' : Registry} {s t : Subscription} {c : ClientId} {id : SubscriptionId}
  {ids ids' : List SubscriptionId}

theorem Sound.unfiltered_eq (h : r.Sound) (h' : r'.Sound)
    (hsubs : r'.subscriptions = r.subscriptions) : r'.unfiltered = r.unfiltered := by
  apply ExtTreeSet.ext_mem
  intro id
  rw [h'.subtopics.mem_unfiltered, h.subtopics.mem_unfiltered, hsubs]

/-- The pattern of an entry is read from the text that it stands under. -/
theorem Sound.patterns_eq (h : r.Sound) (hr : r.Readable) (h' : r'.Sound) (hr' : r'.Readable)
    (hseparator : r'.separator = r.separator) (hsubs : r'.subscriptions = r.subscriptions) :
    r'.patterns = r.patterns := by
  have hids : r'.patternIds = r.patternIds :=
    (hsubs ▸ h'.subtopics.patterns).unique h.subtopics.patterns
  apply ExtTreeMap.ext_getElem?
  intro text
  have htext : (r'.patterns[text]?).map (·.ids) = (r.patterns[text]?).map (·.ids) := by
    have hget := congrArg (fun index : IdIndex String => index[text]?) hids
    simpa only [patternIds, ExtTreeMap.getElem?_map] using hget
  cases hold : r.patterns[text]? with
  | none =>
    rw [hold] at htext
    exact Option.map_eq_none_iff.mp htext
  | some entry =>
    rw [hold] at htext
    obtain ⟨entry', hnew, hsame⟩ := Option.map_eq_some_iff.mp htext
    obtain ⟨hparsed, hvalue⟩ := hr.patterns hold
    obtain ⟨hparsed', hvalue'⟩ := hr'.patterns hnew
    rw [hseparator] at hparsed'
    have hpattern := hparsed'.eq_of_value_eq hparsed (hvalue'.trans hvalue.symm)
    rw [hnew]
    exact congrArg some (congr (congrArg PatternEntry.mk hpattern) hsame)

theorem Sound.keyCounts_eq (h : r.Sound) (h' : r'.Sound)
    (hsubs : r'.subscriptions = r.subscriptions) : r'.keyCounts = r.keyCounts := by
  apply ExtTreeMap.ext_getElem?
  intro key
  have hcount : (r'.keyCounts[key]?).getD 0 = (r.keyCounts[key]?).getD 0 := by
    rw [h'.keyCounts, h.keyCounts, withKey, withKey, hsubs]
  have hpos := h.keyCounts_pos key
  have hpos' := h'.keyCounts_pos key
  cases hk : r.keyCounts[key]? <;> cases hk' : r'.keyCounts[key]? <;> simp_all

/-- Nothing in a registry but its queue is more than its subscriptions determine. -/
theorem Sound.eq_of_subscriptions (h : r.Sound) (hr : r.Readable) (h' : r'.Sound)
    (hr' : r'.Readable) (hseparator : r'.separator = r.separator)
    (htracking : r'.tracking = r.tracking) (hsubs : r'.subscriptions = r.subscriptions) :
    { r' with pending := r.pending } = r := by
  have hplain : r'.plain = r.plain := (hsubs ▸ h'.subtopics.plain).unique h.subtopics.plain
  have hclients : r'.byClient = r.byClient := (hsubs ▸ h'.byClient).unique h.byClient
  rw [hseparator, htracking, hsubs, h.unfiltered_eq h' hsubs, hplain,
    h.patterns_eq hr h' hr' hseparator hsubs, hclients, h.keyCounts_eq h' hsubs]

/-! ## Removing in some order -/

/-- The numbers of a client's subscriptions in some order, each of them once. -/
structure Lists (r : Registry) (c : ClientId) (ids : List SubscriptionId) : Prop where
  nodup : ids.Nodup
  mem : ∀ id, id ∈ ids ↔ ∃ s, r.get? id = some s ∧ s.client = c

/-- Whether a subscription is the last with its key once all those of its client are gone. -/
def IsUnshared (r : Registry) (s : Subscription) : Prop :=
  ∀ t ∈ r.toList, t.client ≠ s.client → t.key ≠ s.key

instance (r : Registry) (s : Subscription) : Decidable (r.IsUnshared s) :=
  inferInstanceAs (Decidable (∀ t ∈ r.toList, t.client ≠ s.client → t.key ≠ s.key))

/-- What is answered for a subscription that is removed with all the others of its client. -/
def taken (r : Registry) (s : Subscription) : Removed := ⟨s, decide (r.IsUnshared s)⟩

theorem Lists.client_eq (h : r.Lists c ids) :
    ∀ id ∈ ids, ∀ s, r.get? id = some s → s.client = c := by
  intro id hid s hs
  obtain ⟨t, ht, hclient⟩ := (h.mem id).mp hid
  rw [ht] at hs
  exact Option.some.inj hs ▸ hclient

theorem Sound.lists_byClient (h : r.Sound) (c : ClientId) :
    r.Lists c (r.byClient.under c).toList where
  nodup := by
    have hordered := ExtTreeSet.ordered_toList (t := r.byClient.under c)
    exact hordered.imp fun hlt heq => by simp [heq] at hlt
  mem id := by
    rw [ExtTreeSet.mem_toList, h.byClient.mem_under]
    exact exists_congr fun s => and_congr_right fun _ => Option.some_inj

/-- Subscriptions of one client that have the same key are one. -/
theorem Sound.eq_of_key_eq (h : r.Sound) (hr : r.Readable) (hs : s ∈ r.toList)
    (ht : t ∈ r.toList) (hclient : t.client = s.client) (hkey : t.key = s.key) : t = s := by
  have hgets := h.mem_toList.mp hs
  have hgett := h.mem_toList.mp ht
  have hsubtopic : t.subtopic.map (·.value) = s.subtopic.map (·.value) :=
    congrArg SubscriptionKey.subtopic hkey
  have hselector : t.selector = s.selector := congrArg SubscriptionKey.selector hkey
  refine h.describes.single t ht s hs hclient ?_ hselector
  cases hsub : s.subtopic with
  | none =>
    rw [hsub] at hsubtopic
    exact Option.map_eq_none_iff.mp hsubtopic
  | some p =>
    rw [hsub] at hsubtopic
    obtain ⟨q, hq, hvalue⟩ := Option.map_eq_some_iff.mp hsubtopic
    rw [hq, (hr.subtopics hgett q hq).eq_of_value_eq (hr.subtopics hgets p hsub) hvalue]

/-- A removal answers what it would if the others of the client were gone. -/
theorem Sound.snd_remove (h : r.Sound) (hr : r.Readable) (hs : r.get? id = some s) :
    (r.remove id).2 = some (r.taken s) := by
  have hid := h.id_eq hs
  have hmem : s ∈ r.toList := h.mem_toList.mpr (hid.symm ▸ hs)
  obtain ⟨last, hremoved, hlast⟩ := (h.tellsRemoval id).of_mem s hmem hid
  have hflag : last = true ↔ r.IsUnshared s := by
    rw [hlast]
    constructor
    · intro hnone t ht hother
      refine hnone t ((h.mem_toList_remove id).mpr ⟨ht, fun heq => hother ?_⟩)
      have hget := h.mem_toList.mp ht
      rw [heq, hs] at hget
      exact congrArg Subscription.client (Option.some.inj hget).symm
    · intro hothers t ht hkey
      obtain ⟨ht, hne⟩ := (h.mem_toList_remove id).mp ht
      by_cases hclient : t.client = s.client
      · exact hne (h.eq_of_key_eq hr hmem ht hclient hkey ▸ hid)
      · exact hothers t ht hclient hkey
  rw [hremoved, taken, ← Bool.decide_coe last, decide_eq_decide.mpr hflag]

/-- Removing a subscription of the same client does not change what is answered for one. -/
theorem Sound.taken_remove (h : r.Sound) (hs : r.get? id = some s) (hclient : s.client = t.client) :
    (r.remove id).1.taken t = r.taken t := by
  refine congrArg (Removed.mk t) (decide_eq_decide.mpr ?_)
  refine forall_congr' fun u => ?_
  rw [h.mem_toList_remove]
  refine ⟨fun hu hmem hother => hu ⟨hmem, fun heq => hother ?_⟩ hother, fun hu hmem => hu hmem.1⟩
  have hget := h.mem_toList.mp hmem
  rw [heq, hs] at hget
  rw [← Option.some.inj hget, hclient]

/-- What is answered when subscriptions of one client are removed one after the other. -/
theorem Sound.snd_removeAll {r : Registry} (h : r.Sound) (hr : r.Readable) (hnodup : ids.Nodup)
    (hids : ∀ id ∈ ids, ∀ s, r.get? id = some s → s.client = c) :
    (removeAll ids r).2 = ids.filterMap fun id => (r.get? id).map r.taken := by
  induction ids generalizing r with
  | nil => rfl
  | cons id ids ih =>
    obtain ⟨hnot, hnodup⟩ := List.nodup_cons.mp hnodup
    have hlater : ∀ id' ∈ ids, (r.remove id).1.get? id' = r.get? id' := by
      intro id' hid'
      rw [get?_remove, if_neg (Ne.symm (ne_of_mem_of_not_mem hid' hnot))]
    have hrest := ih (h.remove id) (hr.remove id) hnodup fun id' hid' s hs =>
      hids id' (List.mem_cons_of_mem id hid') s (hlater id' hid' ▸ hs)
    have hsame : (ids.filterMap fun id' => ((r.remove id).1.get? id').map (r.remove id).1.taken) =
        ids.filterMap fun id' => (r.get? id').map r.taken := by
      apply List.filterMap_congr
      intro id' hid'
      rw [hlater id' hid']
      cases hs : r.get? id with
      | none => rw [remove_of_none hs]
      | some s =>
        refine Option.map_congr fun t ht => h.taken_remove hs ?_
        rw [hids id List.mem_cons_self s hs, hids id' (List.mem_cons_of_mem id hid') t ht]
    have hunfold : (removeAll (id :: ids) r).2 =
        (r.remove id).2.toList ++ (removeAll ids (r.remove id).1).2 := rfl
    rw [hunfold, hrest, hsame, List.filterMap_cons]
    cases hs : r.get? id with
    | none => rw [remove_of_none hs]; rfl
    | some s => rw [h.snd_remove hr hs]; rfl

/-- Which subscriptions are left when those of a client are removed one after the other. -/
theorem Sound.get?_removeAll (h : r.Sound) (hids : r.Lists c ids) (id : SubscriptionId) :
    (removeAll ids r).1.get? id = (r.get? id).filter fun s => !decide (s.client = c) := by
  by_cases hmem : id ∈ ids
  · obtain ⟨s, hs, hclient⟩ := (hids.mem id).mp hmem
    rw [get?_removeAll_of_mem h hmem, hs, Option.filter_some, decide_eq_true hclient]
    rfl
  · rw [get?_removeAll_of_not_mem hmem]
    cases hs : r.get? id with
    | none => rfl
    | some s =>
      have hother : s.client ≠ c := fun hclient => hmem ((hids.mem id).mpr ⟨s, hs, hclient⟩)
      rw [Option.filter_some, decide_eq_false hother]
      rfl

theorem Sound.subscriptions_removeAll (h : r.Sound) (hids : r.Lists c ids)
    (hids' : r.Lists c ids') :
    (removeAll ids' r).1.subscriptions = (removeAll ids r).1.subscriptions := by
  apply ExtTreeMap.ext_getElem?
  intro id
  exact (h.get?_removeAll hids' id).trans (h.get?_removeAll hids id).symm

/-- The subscriptions that are removed are those of the client. -/
theorem Sound.removed_perm (h : r.Sound) (hr : r.Readable) (hids : r.Lists c ids) :
    ((removeAll ids r).2.map (·.subscription)).Perm
      (r.toList.filter fun s => s.client = c) := by
  have hremoved : (removeAll ids r).2.map (·.subscription) = ids.filterMap r.get? := by
    rw [h.snd_removeAll hr hids.nodup hids.client_eq, List.map_filterMap]
    refine List.filterMap_congr fun id _ => ?_
    rw [Option.map_map]
    exact Option.map_id'
  have hnodup : (ids.filterMap r.get?).Nodup := by
    refine hids.nodup.filterMap fun id id' s hs hs' => ?_
    exact (h.id_eq hs).symm.trans (h.id_eq hs')
  rw [hremoved, List.perm_ext_iff_of_nodup hnodup (h.nodup_toList.filter _)]
  intro s
  rw [List.mem_filterMap, List.mem_filter, h.mem_toList, decide_eq_true_iff]
  constructor
  · rintro ⟨id, hid, hs⟩
    rw [h.id_eq hs]
    exact ⟨hs, hids.client_eq id hid s hs⟩
  · rintro ⟨hs, hclient⟩
    exact ⟨s.id, (hids.mem s.id).mpr ⟨s, hs, hclient⟩, hs⟩

/-- Removals in two orders queue the same changes. -/
theorem Sound.pending_removeAll_perm (h : r.Sound) (hids : r.Lists c ids)
    (hids' : r.Lists c ids') : ∃ changes changes' : List KeyChange,
    (removeAll ids r).1.pending = r.pending ++ changes ∧
      (removeAll ids' r).1.pending = r.pending ++ changes' ∧ changes.Perm changes' := by
  cases htracking : r.tracking with
  | false =>
    refine ⟨[], [], ?_, ?_, .refl []⟩
    · rw [pending_removeAll_of_not_tracking ids htracking, List.append_nil]
    · rw [pending_removeAll_of_not_tracking ids' htracking, List.append_nil]
  | true =>
    have htracks : r.Tracks := ⟨h, htracking⟩
    obtain ⟨changes, hpending, hnodup, hchanges⟩ := htracks.pending_removeAll ids
    obtain ⟨changes', hpending', hnodup', hchanges'⟩ := htracks.pending_removeAll ids'
    have hkeys : (removeAll ids' r).1.keys = (removeAll ids r).1.keys := by
      rw [keys, keys, (h.thins_removeAll ids).sound.keyCounts_eq (h.thins_removeAll ids').sound
        (h.subscriptions_removeAll hids hids')]
    refine ⟨changes, changes', hpending, hpending', ?_⟩
    rw [List.perm_ext_iff_of_nodup hnodup hnodup']
    intro change
    rw [hchanges, hchanges', hkeys]

/-- Two orders of removing the subscriptions of a client come to the same: the answers are the
same but for their order, and so are the queued changes, and the registry that is left is the
same. A removal answers that it took the last subscription with its key exactly when no other
client has one with that key. -/
structure ComesToTheSame (r : Registry) (c : ClientId) (ids ids' : List SubscriptionId) :
    Prop where
  answers : (removeAll ids r).2.Perm (removeAll ids' r).2
  left : { (removeAll ids r).1 with pending := r.pending } =
    { (removeAll ids' r).1 with pending := r.pending }
  queued : ∃ changes changes' : List KeyChange,
    (removeAll ids r).1.pending = r.pending ++ changes ∧
      (removeAll ids' r).1.pending = r.pending ++ changes' ∧ changes.Perm changes'
  last : ∀ x ∈ (removeAll ids r).2,
    x.lastForKey = true ↔ ∀ t ∈ r.toList, t.client ≠ c → t.key ≠ x.subscription.key

theorem Sound.comesToTheSame (h : r.Sound) (hr : r.Readable) (hids : r.Lists c ids)
    (hids' : r.Lists c ids') : r.ComesToTheSame c ids ids' := by
  have hanswers := h.snd_removeAll hr hids.nodup hids.client_eq
  have hanswers' := h.snd_removeAll hr hids'.nodup hids'.client_eq
  have hthins := h.thins_removeAll ids
  have hthins' := h.thins_removeAll ids'
  constructor
  case answers =>
    have hperm : ids.Perm ids' := by
      rw [List.perm_ext_iff_of_nodup hids.nodup hids'.nodup]
      intro id
      rw [hids.mem, hids'.mem]
    rw [hanswers, hanswers']
    exact hperm.filterMap _
  case left =>
    have heq := hthins'.sound.eq_of_subscriptions (hthins'.readable hr) hthins.sound
      (hthins.readable hr) (hthins.separator.trans hthins'.separator.symm)
      (hthins.tracking.trans hthins'.tracking.symm) (h.subscriptions_removeAll hids' hids)
    exact congrArg (fun left : Registry => { left with pending := r.pending }) heq
  case queued => exact h.pending_removeAll_perm hids hids'
  case last =>
    intro x hx
    rw [hanswers, List.mem_filterMap] at hx
    obtain ⟨id, hid, hx⟩ := hx
    obtain ⟨s, hs, rfl⟩ := Option.map_eq_some_iff.mp hx
    rw [← hids.client_eq id hid s hs]
    exact decide_eq_true_iff

/-- In whatever order the subscriptions of a client are removed, it comes to the same, and all
of them are gone. Removing a client takes them in one such order. -/
theorem removeClient_any_order {separator : Char} {tracking : Bool}
    (h : Reachable separator tracking r) (c : ClientId) :
    (∃ ids, r.Lists c ids ∧ r.removeClient c = removeAll ids r) ∧
      ∀ ids ids', r.Lists c ids → r.Lists c ids' →
        r.ComesToTheSame c ids ids' ∧
          ((removeAll ids r).2.map (·.subscription)).Perm
            (r.toList.filter fun s => s.client = c) := by
  obtain ⟨hsound, hreadable, -⟩ := h.sound_readable
  refine ⟨⟨_, hsound.lists_byClient c, rfl⟩, fun ids ids' hids hids' => ⟨?_, ?_⟩⟩
  · exact hsound.comesToTheSame hreadable hids hids'
  · exact hsound.removed_perm hreadable hids

/-- Two clients want everything from the games, and one of them what a selector lets through. -/
def sharedRegistry : Registry :=
  Edit.apply (.insert ⟨3, "games", "bob", none, none, none, 0⟩)
    (Edit.apply (.insert ⟨2, "games", "ann", none, some "x = 1", none, 0⟩)
      (Edit.apply (.insert ⟨1, "games", "ann", none, none, none, 0⟩) (empty '.' true)))

theorem removeClient_any_order_shared :
    Reachable '.' true sharedRegistry ∧ sharedRegistry.Lists "ann" [1, 2] ∧
      sharedRegistry.Lists "ann" [2, 1] ∧
      sharedRegistry.ComesToTheSame "ann" [1, 2] [2, 1] ∧
      (removeAll [1, 2] sharedRegistry).2.map (·.lastForKey) = [false, true] ∧
      (removeAll [2, 1] sharedRegistry).2.map (·.lastForKey) = [true, false] := by
  have hreachable : Reachable '.' true sharedRegistry := by
    refine .edit (.edit (.edit .empty ?_ ?_) ?_ ?_) ?_ ?_
    case refine_1 | refine_3 | refine_5 =>
      intro s hs
      cases hs
      rfl
    case refine_2 | refine_4 | refine_6 =>
      intro s hs t ht
      cases hs
      cases ht
  have hlists : sharedRegistry.Lists "ann" [1, 2] :=
    hreachable.sound_readable.1.lists_byClient "ann"
  have hother : sharedRegistry.Lists "ann" [2, 1] :=
    ⟨by decide, fun id => (List.Perm.swap 1 2 []).mem_iff.trans (hlists.mem id)⟩
  exact ⟨hreachable, hlists, hother,
    ((removeClient_any_order hreachable "ann").2 [1, 2] [2, 1] hlists hother).1, rfl, rfl⟩

end Registry

end MessageBroker
