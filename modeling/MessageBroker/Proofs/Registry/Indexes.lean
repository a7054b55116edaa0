/-
# The indexes of a registry

A registry stores each subscription once and refers to it from several indexes: by the
text of a plain subtopic, by the text of a pattern, by client, and by counting keys. Here
it is said what each index has to hold for a given map of subscriptions. An index follows
a classification of subscriptions when exactly the numbers of a class stand under its
name and no set under a name is empty. Entering and dropping a number keeps an index in
step with a subscription that comes or goes.

A registry is sound when all of its indexes follow, and readable when its subtopics and
patterns were read with its own separator. Soundness does not speak of the changes that
wait for other nodes.
-/

import MessageBroker.Proofs.Maps
import MessageBroker.Proofs.Subtopic.Parsing
import MessageBroker.Subscription.Registry

open Std

namespace MessageBroker

namespace IdIndex

variable {κ : Type} [Ord κ] [TransOrd κ]

/-- Dropping a number from under a key that is not there. -/
theorem drop_of_none {index : IdIndex κ} {k : κ} (h : index[k]? = none) (id : SubscriptionId) :
    index.drop k id = index := by
  simp only [drop, h]

/-- Dropping a number from under a key: the key goes with its last number. -/
theorem drop_of_some {index : IdIndex κ} {k : κ} {ids : IdSet} (h : index[k]? = some ids)
    (id : SubscriptionId) :
    index.drop k id =
      if ids.erase id = ∅ then index.erase k else index.insert k (ids.erase id) := by
  simp only [drop, h, ExtTreeSet.isEmpty_iff]

/-- An index stands for a classification of subscriptions: under the name of a class are
the numbers of its members, and a class without members has no entry. -/
structure Follows (index : IdIndex κ) (subs : ExtTreeMap SubscriptionId Subscription)
    (classOf : Subscription → Option κ) : Prop where
  mem_under : ∀ (k : κ) (id : SubscriptionId),
    id ∈ index.under k ↔ ∃ s, subs[id]? = some s ∧ classOf s = some k
  tight : ∀ k : κ, index[k]? ≠ some ∅

section Follows

variable {index : IdIndex κ} {subs : ExtTreeMap SubscriptionId Subscription}
  {classOf : Subscription → Option κ} {id : SubscriptionId} {s : Subscription}

/-- The index of no subscriptions is empty. -/
theorem follows_empty : Follows (∅ : IdIndex κ) ∅ classOf where
  mem_under := by simp [under]
  tight := by simp

/-- A subscription without class does not show in the index when it comes. -/
theorem Follows.insert_of_none (h : Follows index subs classOf) (hid : subs[id]? = none)
    (hs : classOf s = none) : Follows index (subs.insert id s) classOf where
  mem_under k i := by
    rw [h.mem_under, Maps.exists_getElem?_insert s hid]
    simp [hs]
  tight := h.tight

/-- A subscription without class does not show in the index when it goes. -/
theorem Follows.erase_of_none (h : Follows index subs classOf) (hid : subs[id]? = some s)
    (hs : classOf s = none) : Follows index (subs.erase id) classOf where
  mem_under k i := by
    rw [h.mem_under, Maps.exists_getElem?_erase]
    refine (and_iff_right_of_imp ?_).symm
    rintro ⟨t, ht, hclass⟩ rfl
    rw [Option.some.inj (hid.symm.trans ht), hclass] at hs
    cases hs
  tight := h.tight

variable [LawfulEqOrd κ]

/-- The names in the index are those of the classes that have members. -/
theorem Follows.mem_keys (h : Follows index subs classOf) (k : κ) :
    k ∈ index.keys ↔
      ∃ (id : SubscriptionId) (s : Subscription), subs[id]? = some s ∧ classOf s = some k := by
  rw [ExtTreeMap.mem_keys, ExtTreeMap.mem_iff_isSome_getElem?]
  simp only [← h.mem_under]
  constructor
  · intro hsome
    obtain ⟨ids, hids⟩ := Option.isSome_iff_exists.mp hsome
    have hne : ids ≠ ∅ := fun hempty => h.tight k (hempty ▸ hids)
    have hnonempty : ids.toList ≠ [] := by
      intro hnil
      apply hne
      rw [← ExtTreeSet.isEmpty_iff, ← ExtTreeSet.isEmpty_toList, hnil]
      rfl
    obtain ⟨id, hid⟩ := List.exists_mem_of_ne_nil _ hnonempty
    exact ⟨id, by simpa [under, hids] using hid⟩
  · rintro ⟨id, hid⟩
    cases hk : index[k]? with
    | none => simp [under, hk] at hid
    | some ids => rfl

variable [DecidableEq κ]

/-- What stands under each key after a number was added. -/
theorem under_add (index : IdIndex κ) (k k' : κ) (id : SubscriptionId) :
    (index.add k id).under k' = if k = k' then (index.under k).insert id else index.under k' := by
  simp only [under, add, Maps.getElem?_insert_ite]
  split <;> rfl

/-- What stands under each key after a number was dropped. -/
theorem under_drop (index : IdIndex κ) (k k' : κ) (id : SubscriptionId) :
    (index.drop k id).under k' = if k = k' then (index.under k).erase id else index.under k' := by
  cases hk : index[k]? with
  | none =>
    rw [drop_of_none hk]
    by_cases heq : k = k'
    · subst heq
      simp [under, hk]
    · rw [if_neg heq]
  | some ids =>
    rw [drop_of_some hk]
    by_cases hempty : ids.erase id = ∅
    · rw [if_pos hempty, under, Maps.getElem?_erase_ite]
      by_cases heq : k = k'
      · subst heq
        simp [under, hk, hempty]
      · simp [heq, under]
    · rw [if_neg hempty, under, Maps.getElem?_insert_ite]
      by_cases heq : k = k'
      · subst heq
        simp [under, hk]
      · simp [heq, under]

/-- A subscription with a class is added to it when it comes. -/
theorem Follows.insert_of_some {k : κ} (h : Follows index subs classOf) (hid : subs[id]? = none)
    (hs : classOf s = some k) : Follows (index.add k id) (subs.insert id s) classOf where
  mem_under k' i := by
    rw [under_add, Maps.exists_getElem?_insert s hid, ← h.mem_under, hs, Option.some.injEq]
    by_cases hk : k = k'
    · subst hk
      simp only [if_true, ExtTreeSet.mem_insert, Std.compare_eq_iff_eq, and_true]
    · simp only [hk, if_false, and_false, false_or]
  tight k' := by
    rw [add, Maps.getElem?_insert_ite]
    split
    next =>
      intro hempty
      have hmem := ExtTreeSet.mem_insert_self (t := index[k]?.getD ∅) (k := id)
      rw [Option.some.inj hempty] at hmem
      exact ExtTreeSet.not_mem_empty hmem
    next => exact h.tight k'

/-- A subscription with a class is dropped from it when it goes. -/
theorem Follows.erase_of_some {k : κ} (h : Follows index subs classOf) (hid : subs[id]? = some s)
    (hs : classOf s = some k) : Follows (index.drop k id) (subs.erase id) classOf where
  mem_under k' i := by
    rw [under_drop, Maps.exists_getElem?_erase, ← h.mem_under]
    by_cases hk : k = k'
    · subst hk
      simp only [if_true, ExtTreeSet.mem_erase, ne_eq, Std.compare_eq_iff_eq]
    · rw [if_neg hk, and_iff_right_of_imp]
      rintro hmem rfl
      obtain ⟨t, ht, hclass⟩ := (h.mem_under k' id).mp hmem
      rw [← Option.some.inj (hid.symm.trans ht), hs] at hclass
      exact hk (Option.some.inj hclass)
  tight k' := by
    cases hget : index[k]? with
    | none =>
      rw [drop_of_none hget]
      exact h.tight k'
    | some ids =>
      rw [drop_of_some hget]
      by_cases hempty : ids.erase id = ∅
      · rw [if_pos hempty, Maps.getElem?_erase_ite]
        split
        · simp
        · exact h.tight k'
      · rw [if_neg hempty, Maps.getElem?_insert_ite]
        split
        · exact fun heq => hempty (Option.some.inj heq)
        · exact h.tight k'

end Follows

end IdIndex

namespace Subscription

/-- The text of a plain subtopic. -/
def plainText? (s : Subscription) : Option String :=
  (s.subtopic.filter fun t => !t.hasWildcard).map (·.value)

/-- The text of a pattern. -/
def patternText? (s : Subscription) : Option String :=
  (s.subtopic.filter (·.hasWildcard)).map (·.value)

/-- A subscription without subtopic has neither text. -/
theorem texts_of_none {s : Subscription} (h : s.subtopic = none) :
    s.plainText? = none ∧ s.patternText? = none := by
  simp [plainText?, patternText?, h]

/-- A subscription with a plain subtopic is classified by its text. -/
theorem texts_of_plain {s : Subscription} {t : Subtopic} (h : s.subtopic = some t)
    (hwild : t.hasWildcard = false) : s.plainText? = some t.value ∧ s.patternText? = none := by
  rw [plainText?, patternText?, h, Option.filter_some, Option.filter_some, hwild]
  exact ⟨rfl, rfl⟩

/-- A subscription with a pattern is classified by the text of the pattern. -/
theorem texts_of_pattern {s : Subscription} {t : Subtopic} (h : s.subtopic = some t)
    (hwild : t.hasWildcard = true) : s.plainText? = none ∧ s.patternText? = some t.value := by
  rw [plainText?, patternText?, h, Option.filter_some, Option.filter_some, hwild]
  exact ⟨rfl, rfl⟩

/-- Two subscriptions have the same filter when subtopic and selector agree. -/
theorem sameFilter_iff {s t : Subscription} :
    s.sameFilter t = true ↔ s.subtopic = t.subtopic ∧ s.selector = t.selector := by
  simp [sameFilter]

/-- Whether the subtopic filter of a subscription, if any, was read with a separator. -/
def ReadWith (separator : Char) (s : Subscription) : Prop :=
  ∀ t, s.subtopic = some t → t.ParsedWith separator

end Subscription

namespace Registry

/-- The numbers under each pattern. -/
def patternIds (r : Registry) : IdIndex String := r.patterns.map fun _ entry => entry.ids

/-- The subscriptions with a key. -/
def withKey (r : Registry) (key : SubscriptionKey) : ExtTreeMap SubscriptionId Subscription :=
  r.subscriptions.filter fun _ s => s.key = key

/-- The three indexes of subtopics divide the subscriptions of a map among them: those
without subtopic, those with a plain one, and those with a pattern. -/
structure Divides (r : Registry) (subs : ExtTreeMap SubscriptionId Subscription) : Prop where
  mem_unfiltered : ∀ id : SubscriptionId,
    id ∈ r.unfiltered ↔ ∃ s, subs[id]? = some s ∧ s.subtopic = none
  plain : r.plain.Follows subs Subscription.plainText?
  patterns : r.patternIds.Follows subs Subscription.patternText?

/-- All indexes agree with the subscriptions, and no client has a filter twice. -/
structure Sound (r : Registry) : Prop where
  id_eq : ∀ {id s}, r.get? id = some s → s.id = id
  subtopics : r.Divides r.subscriptions
  byClient : r.byClient.Follows r.subscriptions fun s => some s.client
  keyCounts : ∀ key : SubscriptionKey, (r.keyCounts[key]?).getD 0 = (r.withKey key).size
  keyCounts_pos : ∀ key : SubscriptionKey, r.keyCounts[key]? ≠ some 0
  single : ∀ {i j s t}, r.get? i = some s → r.get? j = some t → s.client = t.client →
    s.sameFilter t = true → i = j

/-- All subtopics and patterns were read with the separator of the registry, and each
pattern stands under its own text. -/
structure Readable (r : Registry) : Prop where
  subtopics : ∀ {id s}, r.get? id = some s → s.ReadWith r.separator
  patterns : ∀ {text : String} {entry}, r.patterns[text]? = some entry →
    entry.pattern.ParsedWith r.separator ∧ entry.pattern.value = text

end Registry

end MessageBroker
