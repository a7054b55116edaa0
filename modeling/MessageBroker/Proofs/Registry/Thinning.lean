/-
# Thinnings and edits

There are several ways of taking subscriptions out of a registry: one by its number, those
of a client, all of them at once. Each of them is a thinning, which takes out the
subscriptions that it answers with and leaves the others as they were. What is said of
thinnings once, holds for every way of removal, and also for taking a change from the
queue, which takes nothing out. So an edit of a registry is an entry or a thinning.
-/

import MessageBroker.Proofs.Registry.Editing

open Std

namespace MessageBroker

namespace Registry

variable {r r' r'' : Registry} {removed rest : List Subscription} {s : Subscription}

/-- A registry is thinned to another one when some of its subscriptions are taken out and
all others stay as they were. -/
structure Thins (r : Registry) (removed : List Subscription) (r' : Registry) : Prop where
  separator : r'.separator = r.separator
  tracking : r'.tracking = r.tracking
  sound : r'.Sound
  readable : r.Readable → r'.Readable
  held : ∀ s ∈ removed, r.get? s.id = some s
  get? : ∀ id, r'.get? id = if id ∈ removed.map (·.id) then none else r.get? id
  size : r'.size + removed.length = r.size

/-- What a thinned registry holds was held before. -/
theorem Thins.get?_of_get? (h : r.Thins removed r') {id : SubscriptionId}
    (hget : r'.get? id = some s) : r.get? id = some s := by
  rw [h.get?] at hget
  split at hget
  · cases hget
  · exact hget

/-- What was held stays or is among what was taken out. -/
theorem Thins.get?_or_mem (h : r.Thins removed r') {id : SubscriptionId}
    (hget : r.get? id = some s) : r'.get? id = some s ∨ s ∈ removed := by
  by_cases hmem : id ∈ removed.map (·.id)
  · obtain ⟨t, ht, rfl⟩ := List.mem_map.mp hmem
    have hsame : t = s := Option.some.inj ((h.held t ht).symm.trans hget)
    exact .inr (hsame ▸ ht)
  · rw [h.get?, if_neg hmem]
    exact .inl hget

/-- What was taken out is no longer held. -/
theorem Thins.get?_of_mem (h : r.Thins removed r') (hs : s ∈ removed) : r'.get? s.id = none := by
  rw [h.get?, if_pos (List.mem_map_of_mem hs)]

/-- Nothing is taken out of a registry that stays as it is. -/
theorem Sound.thins_refl (h : r.Sound) : r.Thins [] r where
  separator := rfl
  tracking := rfl
  sound := h
  readable := id
  held := by simp
  get? := by simp
  size := rfl

/-- Two thinnings one after the other take out what both take out. -/
theorem Thins.trans (h : r.Thins removed r') (h' : r'.Thins rest r'') :
    r.Thins (removed ++ rest) r'' where
  separator := h'.separator.trans h.separator
  tracking := h'.tracking.trans h.tracking
  sound := h'.sound
  readable hr := h'.readable (h.readable hr)
  held s hs := by
    rcases List.mem_append.mp hs with hmem | hmem
    · exact h.held s hmem
    · exact h.get?_of_get? (h'.held s hmem)
  get? id := by
    rw [h'.get?, h.get?, List.map_append]
    by_cases hfirst : id ∈ removed.map (·.id)
    · simp [hfirst]
    · by_cases hthen : id ∈ rest.map (·.id) <;> simp [hfirst, hthen]
  size := by
    rw [List.length_append, ← h.size, ← h'.size]
    omega

/-- Removing a number thins a registry by what is answered. -/
theorem Sound.thins_remove (h : r.Sound) (id : SubscriptionId) :
    r.Thins ((r.remove id).2.toList.map (·.subscription)) (r.remove id).1 := by
  cases hget : r.get? id with
  | none =>
    rw [remove_of_none hget]
    exact h.thins_refl
  | some s =>
    have hid : s.id = id := h.id_eq hget
    have hother := get?_remove r id
    have hsound := h.remove id
    have hreadable := fun hr : r.Readable => hr.remove id
    rw [remove_of_some hget] at hother hsound hreadable ⊢
    refine ⟨rfl, rfl, hsound, hreadable, ?_, ?_, ?_⟩
    · simpa [hid] using hget
    · intro i
      rw [hother]
      simp [hid, eq_comm]
    · exact Maps.size_erase_of_some hget

/-- Removing numbers one after the other thins a registry by all that is answered. -/
theorem Sound.thins_removeAll (ids : List SubscriptionId) {r : Registry} (h : r.Sound) :
    r.Thins ((removeAll ids r).2.map (·.subscription)) (removeAll ids r).1 := by
  induction ids generalizing r with
  | nil => exact h.thins_refl
  | cons id ids ih =>
    have hfirst := h.thins_remove id
    rw [removeAll, List.map_append]
    exact hfirst.trans (ih hfirst.sound)

/-- Removing the subscriptions of a client thins a registry. -/
theorem Sound.thins_removeClient (h : r.Sound) (c : ClientId) :
    r.Thins ((r.removeClient c).2.map (·.subscription)) (r.removeClient c).1 :=
  h.thins_removeAll _

/-- After numbers were removed one after the other, none of them is held. -/
theorem get?_removeAll_of_mem {ids : List SubscriptionId} {r : Registry} (h : r.Sound)
    {id : SubscriptionId} (hid : id ∈ ids) : (removeAll ids r).1.get? id = none := by
  induction ids generalizing r with
  | nil => cases hid
  | cons first ids ih =>
    have hsound := (h.thins_remove first).sound
    rw [removeAll]
    by_cases hmem : id ∈ ids
    · exact ih hsound hmem
    · have hfirst : id = first := (List.mem_cons.mp hid).resolve_right hmem
      have hgone : (r.remove first).1.get? id = none := by rw [get?_remove, if_pos hfirst.symm]
      rw [(hsound.thins_removeAll ids).get?, hgone, ite_self]

/-- After the subscriptions of a client were removed, it has none. -/
theorem client_ne_of_get?_removeClient (h : r.Sound) {c : ClientId} {id : SubscriptionId}
    (hget : (r.removeClient c).1.get? id = some s) : s.client ≠ c := by
  intro hclient
  have hbefore := (h.thins_removeClient c).get?_of_get? hget
  have hmem : id ∈ (r.byClient.under c).toList := by
    rw [ExtTreeSet.mem_toList, h.byClient.mem_under]
    exact ⟨s, hbefore, congrArg some hclient⟩
  rw [removeClient, get?_removeAll_of_mem h hmem] at hget
  cases hget

/-- A registry that only waits for other changes to be told is as sound as before. -/
theorem Sound.with_pending (h : r.Sound) (pending : List KeyChange) :
    ({ r with pending } : Registry).Sound :=
  ⟨h.id_eq, ⟨h.subtopics.mem_unfiltered, h.subtopics.plain, h.subtopics.patterns⟩, h.byClient,
    h.keyCounts, h.keyCounts_pos, h.single⟩

/-- A registry that only waits for other changes to be told holds the same. -/
theorem Sound.thins_with_pending (h : r.Sound) (pending : List KeyChange) :
    r.Thins [] { r with pending } where
  separator := rfl
  tracking := rfl
  sound := h.with_pending pending
  readable hr := ⟨hr.subtopics, hr.patterns⟩
  held := by simp
  get? := by simp [Registry.get?]
  size := rfl

/-- Taking the oldest queued change leaves the subscriptions as they are. -/
theorem Sound.thins_pop (h : r.Sound) : r.Thins [] r.pop.1 := by
  unfold pop
  cases r.pending with
  | nil => exact h.thins_refl
  | cons change rest => exact h.thins_with_pending rest

/-- Clearing thins a registry by all of its subscriptions. -/
theorem Sound.thins_clear (h : r.Sound) : r.Thins r.toList r.clear.1 where
  separator := rfl
  tracking := rfl
  sound := (sound_empty r.separator r.tracking).with_pending r.pending
  readable _ := ⟨(readable_empty r.separator r.tracking).subtopics,
    (readable_empty r.separator r.tracking).patterns⟩
  held s hs := h.mem_toList.mp hs
  get? id := by
    have hnone : r.clear.1.get? id = none := by simp [clear, empty, Registry.get?]
    rw [hnone]
    split
    next => rfl
    next hnot =>
      cases hget : r.get? id with
      | none => rfl
      | some s =>
        have hid := h.id_eq hget
        have hmem : s ∈ r.toList := h.mem_toList.mpr (by rw [hid]; exact hget)
        exact absurd (hid ▸ List.mem_map_of_mem hmem) hnot
  size := by
    show (∅ : ExtTreeMap SubscriptionId Subscription).size + r.subscriptions.values.length = _
    rw [Maps.length_values, ExtTreeMap.size_empty, Nat.zero_add]
    rfl

/-! ## Edits -/

/-- A change of the subscriptions of a registry. -/
inductive Edit where
  | insert (s : Subscription)
  | remove (id : SubscriptionId)
  | removeClient (c : ClientId)
  | clear

namespace Edit

/-- The registry after an edit. -/
def apply : Edit → Registry → Registry
  | .insert s, r => (r.insert s).1
  | .remove id, r => (r.remove id).1
  | .removeClient c, r => (r.removeClient c).1
  | .clear, r => r.clear.1

/-- The subscription that an edit is to enter. -/
def entered? : Edit → Option Subscription
  | .insert s => some s
  | _ => none

/-- Whether the number of an entry is not in use. -/
def Fresh (e : Edit) (r : Registry) : Prop := ∀ s, e.entered? = some s → r.get? s.id = none

/-- Whether the subtopic of an entry was read with a separator. -/
def ReadWith (e : Edit) (separator : Char) : Prop :=
  ∀ s, e.entered? = some s → s.ReadWith separator

variable {e : Edit}

/-- An edit that enters nothing is a thinning. -/
theorem exists_thins_apply (h : r.Sound) (he : e.entered? = none) :
    ∃ removed, r.Thins removed (e.apply r) := by
  cases e with
  | insert s => cases he
  | remove id => exact ⟨_, h.thins_remove id⟩
  | removeClient c => exact ⟨_, h.thins_removeClient c⟩
  | clear => exact ⟨_, h.thins_clear⟩

theorem apply_of_entered (he : e.entered? = some s) : e.apply r = (r.insert s).1 := by
  cases e with
  | insert t =>
    rw [← Option.some.inj he]
    rfl
  | remove id => cases he
  | removeClient c => cases he
  | clear => cases he

theorem separator_apply (h : r.Sound) : (e.apply r).separator = r.separator := by
  cases he : e.entered? with
  | none =>
    obtain ⟨removed, hthins⟩ := exists_thins_apply h he
    exact hthins.separator
  | some s =>
    rw [apply_of_entered he]
    exact separator_insert r s

theorem tracking_apply (h : r.Sound) : (e.apply r).tracking = r.tracking := by
  cases he : e.entered? with
  | none =>
    obtain ⟨removed, hthins⟩ := exists_thins_apply h he
    exact hthins.tracking
  | some s =>
    rw [apply_of_entered he]
    exact tracking_insert r s

end Edit

theorem Sound.apply {e : Edit} (h : r.Sound) (hfresh : e.Fresh r) : (e.apply r).Sound := by
  cases he : e.entered? with
  | none =>
    obtain ⟨removed, hthins⟩ := Edit.exists_thins_apply h he
    exact hthins.sound
  | some s =>
    rw [Edit.apply_of_entered he]
    exact h.insert (hfresh s he)

theorem Readable.apply {e : Edit} (hr : r.Readable) (h : r.Sound)
    (hread : e.ReadWith r.separator) : (e.apply r).Readable := by
  cases he : e.entered? with
  | none =>
    obtain ⟨removed, hthins⟩ := Edit.exists_thins_apply h he
    exact hthins.readable hr
  | some s =>
    rw [Edit.apply_of_entered he]
    exact hr.insert (hread s he)

end Registry

end MessageBroker
