/-
# Other limits for the same subscriptions

The limit that a subscription asks for is looked at when a message is handed out and nowhere
else. A registry with other limits has the same subscriptions in the same indexes under the same
keys, and is in as good an order.
-/

import MessageBroker.Proofs.Registry.Indexes

open Std

namespace MessageBroker

variable {f : Subscription → Option Nat} {s t : Subscription} {r : Registry}
  {i : SubscriptionId}

/-- A subscription with another limit. -/
def Subscription.retune (f : Subscription → Option Nat) (s : Subscription) : Subscription :=
  { s with maxFrequency := f s }

/-- A registry in which subscriptions ask for other limits. -/
def Registry.retune (f : Subscription → Option Nat) (r : Registry) : Registry :=
  { r with subscriptions := r.subscriptions.map fun _ s => s.retune f }

namespace IdIndex

variable {κ : Type} [Ord κ] [TransOrd κ] {index : IdIndex κ}
  {subs : ExtTreeMap SubscriptionId Subscription} {classOf : Subscription → Option κ}

theorem exists_getElem?_retune (f : Subscription → Option Nat) {p : Subscription → Prop}
    (hp : ∀ s, p (s.retune f) ↔ p s) :
    (∃ s, (subs.map fun _ s => s.retune f)[i]? = some s ∧ p s) ↔
      ∃ s, subs[i]? = some s ∧ p s := by
  simp only [ExtTreeMap.getElem?_map, Option.map_eq_some_iff]
  constructor
  · rintro ⟨_, ⟨s, hs, rfl⟩, hps⟩
    exact ⟨s, hs, (hp s).mp hps⟩
  · rintro ⟨s, hs, hps⟩
    exact ⟨_, ⟨s, hs, rfl⟩, (hp s).mpr hps⟩

/-- A classification that does not look at limits is followed as before. -/
theorem Follows.retune (h : index.Follows subs classOf)
    (hclass : ∀ s, classOf (s.retune f) = classOf s) :
    index.Follows (subs.map fun _ s => s.retune f) classOf where
  mem_under k i := by
    rw [h.mem_under, exists_getElem?_retune f fun s => by rw [hclass]]
  tight := h.tight

end IdIndex

namespace Registry

theorem get?_retune (f : Subscription → Option Nat) (r : Registry) (i : SubscriptionId) :
    (r.retune f).get? i = (r.get? i).map (·.retune f) :=
  ExtTreeMap.getElem?_map

theorem get?_retune_eq_some_iff :
    (r.retune f).get? i = some t ↔ ∃ s, r.get? i = some s ∧ s.retune f = t := by
  rw [get?_retune, Option.map_eq_some_iff]

theorem size_retune (f : Subscription → Option Nat) (r : Registry) :
    (r.retune f).size = r.size :=
  ExtTreeMap.size_map

theorem size_withKey_retune (f : Subscription → Option Nat) (r : Registry)
    (key : SubscriptionKey) : ((r.retune f).withKey key).size = (r.withKey key).size := by
  have hsame : (r.retune f).withKey key =
      (r.withKey key).map fun _ (s : Subscription) => s.retune f := by
    apply ExtTreeMap.ext_getElem?
    intro i
    simp only [withKey, Registry.retune, ExtTreeMap.getElem?_map, ExtTreeMap.getElem?_filter]
    cases r.subscriptions[i]? with
    | none => rfl
    | some s =>
      rw [Option.map_some, Option.pfilter_some, Option.pfilter_some, apply_ite (Option.map _)]
      rfl
  rw [hsame, ExtTreeMap.size_map]

theorem Divides.retune {subs : ExtTreeMap SubscriptionId Subscription} (h : r.Divides subs) :
    (r.retune f).Divides (subs.map fun _ (s : Subscription) => s.retune f) where
  mem_unfiltered i := by
    rw [IdIndex.exists_getElem?_retune f fun _ => Iff.rfl]
    exact h.mem_unfiltered i
  plain := h.plain.retune fun _ => rfl
  patterns := h.patterns.retune fun _ => rfl

theorem Sound.retune (h : r.Sound) (f : Subscription → Option Nat) : (r.retune f).Sound where
  id_eq ht := by
    obtain ⟨s, hs, rfl⟩ := get?_retune_eq_some_iff.mp ht
    exact (h.id_eq hs : s.id = _)
  subtopics := h.subtopics.retune
  byClient := h.byClient.retune fun _ => rfl
  keyCounts key := by
    rw [size_withKey_retune]
    exact h.keyCounts key
  keyCounts_pos := h.keyCounts_pos
  single hi hj hclient hfilter := by
    obtain ⟨s, hs, rfl⟩ := get?_retune_eq_some_iff.mp hi
    obtain ⟨t, ht, rfl⟩ := get?_retune_eq_some_iff.mp hj
    exact h.single hs ht hclient hfilter

theorem Readable.retune (h : r.Readable) (f : Subscription → Option Nat) :
    (r.retune f).Readable where
  subtopics ht := by
    obtain ⟨s, hs, rfl⟩ := get?_retune_eq_some_iff.mp ht
    exact (h.subtopics hs : s.ReadWith r.separator)
  patterns := h.patterns

end Registry

end MessageBroker
