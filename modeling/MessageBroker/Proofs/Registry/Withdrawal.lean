/-
# A client withdraws from a registry

Removing the subscriptions of a client leaves exactly those of the others. How many were
removed is how many there were, and in a tracking registry the changes that this queues are
the disappearances of the keys that nobody else has.
-/

import MessageBroker.Proofs.Registry.Announcements

open Std

namespace MessageBroker

namespace Registry

variable {r r' : Registry} {c : ClientId} {n : SubscriptionId} {s : Subscription}

/-- There is nothing to remove for a client without subscriptions. -/
theorem removeClient_of_absent (h : r.Sound) (hnone : ∀ n s, r.get? n = some s → s.client ≠ c) :
    r.removeClient c = (r, []) := by
  have hempty : (r.byClient.under c).toList = [] := by
    apply List.eq_nil_iff_forall_not_mem.mpr
    intro n hn
    rw [ExtTreeSet.mem_toList, h.byClient.mem_under] at hn
    obtain ⟨s, hs, hclient⟩ := hn
    exact hnone n s hs (Option.some.inj hclient)
  rw [removeClient, hempty, removeAll]

theorem get?_removeAll_of_not_mem {ids : List SubscriptionId} (hn : n ∉ ids) (r : Registry) :
    (removeAll ids r).1.get? n = r.get? n := by
  induction ids generalizing r with
  | nil => rfl
  | cons id ids ih =>
    rw [List.mem_cons, not_or] at hn
    have hfirst : (r.remove id).1.get? n = r.get? n := by
      rw [get?_remove, if_neg (Ne.symm hn.1)]
    exact (ih hn.2 (r.remove id).1).trans hfirst

/-- Exactly the subscriptions of the others stay. -/
theorem Sound.get?_removeClient (h : r.Sound) :
    (r.removeClient c).1.get? n = some s ↔ r.get? n = some s ∧ s.client ≠ c := by
  constructor
  · intro hs
    exact ⟨(h.thins_removeClient c).get?_of_get? hs, client_ne_of_get?_removeClient h hs⟩
  · intro ⟨hs, hother⟩
    have hnot : n ∉ (r.byClient.under c).toList := by
      rw [ExtTreeSet.mem_toList, h.byClient.mem_under]
      rintro ⟨t, ht, hclient⟩
      obtain rfl := Option.some.inj (ht.symm.trans hs)
      exact hother (Option.some.inj hclient)
    rw [removeClient, get?_removeAll_of_not_mem hnot, hs]

/-- What is removed was the client's. -/
theorem Sound.client_eq_of_mem_removeClient (h : r.Sound) :
    ∀ s ∈ (r.removeClient c).2.map (·.subscription), s.client = c := by
  intro s hs
  have hthins := h.thins_removeClient c
  apply Decidable.byContradiction
  intro hother
  have hstays := h.get?_removeClient.mpr ⟨hthins.held s hs, hother⟩
  rw [hthins.get?_of_mem hs] at hstays
  cases hstays

theorem Sound.nodup_toList (h : r.Sound) : r.toList.Nodup := by
  have hordered : r.toList.Pairwise fun s t => compare s.id t.id = .lt :=
    Maps.pairwise_values fun _ _ hs => h.id_eq hs
  apply hordered.imp
  intro s t hlt heq
  rw [heq, compare_self] at hlt
  cases hlt

theorem Sound.toList_removeClient (h : r.Sound) (c : ClientId) :
    (r.removeClient c).1.toList.Perm (r.toList.filter fun s => !decide (s.client = c)) := by
  have hsound := (h.thins_removeClient c).sound
  apply (List.perm_ext_iff_of_nodup hsound.nodup_toList (h.nodup_toList.filter _)).mpr
  intro s
  rw [hsound.mem_toList, h.get?_removeClient, List.mem_filter, h.mem_toList]
  simp

/-- As many subscriptions are removed as the client has. -/
theorem Sound.length_removeClient (h : r.Sound) (c : ClientId) :
    (r.removeClient c).2.length = r.toList.countP fun s => s.client = c := by
  have hsize := (h.thins_removeClient c).size
  have hstay := (h.toList_removeClient c).length_eq
  have hall := List.length_eq_countP_add_countP (fun s : Subscription => decide (s.client = c))
    (l := r.toList)
  rw [List.length_map] at hsize
  rw [← List.countP_eq_length_filter] at hstay
  have hlength (r : Registry) : r.toList.length = r.size := Maps.length_values r.subscriptions
  rw [hlength] at hstay hall
  simp only [Bool.not_eq_true, Bool.decide_eq_false] at hstay hall
  omega

/-! ## Changes of keys -/

theorem Sound.mem_keys_iff (h : r.Sound) {key : SubscriptionKey} :
    key ∈ r.keys ↔ ∃ n s, r.get? n = some s ∧ s.key = key := by
  rw [h.mem_keys, List.mem_map]
  constructor
  · rintro ⟨s, hs, hkey⟩
    exact ⟨s.id, s, h.mem_toList.mp hs, hkey⟩
  · rintro ⟨n, s, hs, hkey⟩
    refine ⟨s, h.mem_toList.mpr ?_, hkey⟩
    rw [h.id_eq hs]
    exact hs

/-- A thinned registry has no other keys than before. -/
theorem Thins.mem_keys {removed : List Subscription} (hthins : r.Thins removed r') (h : r.Sound)
    {key : SubscriptionKey} (hkey : key ∈ r'.keys) : key ∈ r.keys := by
  obtain ⟨n, s, hs, hsame⟩ := hthins.sound.mem_keys_iff.mp hkey
  exact h.mem_keys_iff.mpr ⟨n, s, hthins.get?_of_get? hs, hsame⟩

/-- Removing subscriptions queues the disappearances of the keys that are gone then, each of
them once. -/
theorem Tracks.pending_removeAll (ids : List SubscriptionId) (h : r.Tracks) :
    ∃ changes : List KeyChange, (removeAll ids r).1.pending = r.pending ++ changes ∧
      changes.Nodup ∧ ∀ change, change ∈ changes ↔ change.kind = .removed ∧
        change.key ∈ r.keys ∧ change.key ∉ (removeAll ids r).1.keys := by
  induction ids generalizing r with
  | nil =>
    refine ⟨[], (List.append_nil _).symm, List.nodup_nil, fun change => ?_⟩
    exact iff_of_false List.not_mem_nil fun hchange => hchange.2.2 hchange.2.1
  | cons id ids ih =>
    have hremoved := h.remove id
    obtain ⟨changes, hpending, hnodup, hchanges⟩ := ih hremoved
    have hlater {key : SubscriptionKey} (hkey : key ∉ (r.remove id).1.keys) :
        key ∉ (removeAll ids (r.remove id).1).1.keys :=
      fun hmem => hkey ((hremoved.sound.thins_removeAll ids).mem_keys hremoved.sound hmem)
    have hunfold : (removeAll (id :: ids) r).1 = (removeAll ids (r.remove id).1).1 := rfl
    rw [hunfold]
    cases h.keyStep_remove id with
    | same hsame hkeys =>
      refine ⟨changes, hsame ▸ hpending, hnodup, fun change => ?_⟩
      rw [hchanges, hkeys]
    | queued first hturn hfirst hkeys =>
      have hgone : first.kind = .removed := by
        cases hkind : first.kind with
        | removed => rfl
        | added =>
          have hnow : first.key ∈ (r.remove id).1.keys := by
            rw [hkeys, if_pos rfl]
            exact hkind
          exact absurd ((h.sound.thins_remove id).mem_keys h.sound hnow) (hturn.mp hkind)
      have hbefore : first.key ∈ r.keys := by
        apply Decidable.byContradiction
        intro hnot
        rw [hturn.mpr hnot] at hgone
        cases hgone
      have hafter : first.key ∉ (r.remove id).1.keys := by
        rw [hkeys, if_pos rfl, hgone]
        exact nofun
      refine ⟨first :: changes, ?_, ?_, fun change => ?_⟩
      · rw [hpending, hfirst, List.append_assoc]
        rfl
      · apply List.nodup_cons.mpr ⟨_, hnodup⟩
        rw [hchanges]
        exact fun hmem => hafter hmem.2.1
      · rw [List.mem_cons, hchanges, hkeys]
        constructor
        · rintro (rfl | ⟨hkind, hkey, hnot⟩)
          · exact ⟨hgone, hbefore, hlater hafter⟩
          · split at hkey
            · rw [hgone] at hkey
              cases hkey
            · exact ⟨hkind, hkey, hnot⟩
        · rintro ⟨hkind, hkey, hnot⟩
          by_cases hsame : change.key = first.key
          · exact .inl (congr (congrArg KeyChange.mk hsame) (hkind.trans hgone.symm))
          · right
            rw [if_neg hsame]
            exact ⟨hkind, hkey, hnot⟩

/-- A registry that does not track its changes queues none. -/
theorem pending_removeAll_of_not_tracking (ids : List SubscriptionId)
    (h : r.tracking = false) : (removeAll ids r).1.pending = r.pending := by
  induction ids generalizing r with
  | nil => rfl
  | cons id ids ih =>
    have hfirst : (r.remove id).1.tracking = false ∧ (r.remove id).1.pending = r.pending := by
      cases hget : r.get? id with
      | none =>
        rw [remove_of_none hget]
        exact ⟨h, rfl⟩
      | some s =>
        rw [remove_of_some hget]
        simp [h]
    exact (ih hfirst.1).trans hfirst.2

theorem Sound.nodup_pending_removeClient (h : r.Sound) (hnone : r.pending = []) (c : ClientId) :
    (r.removeClient c).1.pending.Nodup := by
  cases htracking : r.tracking with
  | false =>
    rw [removeClient, pending_removeAll_of_not_tracking _ htracking, hnone]
    exact List.nodup_nil
  | true =>
    obtain ⟨changes, hpending, hnodup, -⟩ :=
      Tracks.pending_removeAll (r.byClient.under c).toList ⟨h, htracking⟩
    rw [removeClient, hpending, hnone]
    exact hnodup

/-- The changes that are queued when a client withdraws from a registry with nothing to tell:
the keys that only the client had disappear. -/
theorem Sound.mem_pending_removeClient (h : r.Sound) (hnone : r.pending = []) (c : ClientId)
    (change : KeyChange) :
    change ∈ (r.removeClient c).1.pending ↔ r.tracking = true ∧ change.kind = .removed ∧
      (∃ n s, r.get? n = some s ∧ s.client = c ∧ s.key = change.key) ∧
      ¬∃ n s, r.get? n = some s ∧ s.client ≠ c ∧ s.key = change.key := by
  have hsound := (h.thins_removeClient c).sound
  have hkeys {key : SubscriptionKey} : key ∈ (r.removeClient c).1.keys ↔
      ∃ n s, r.get? n = some s ∧ s.client ≠ c ∧ s.key = key := by
    simp only [hsound.mem_keys_iff, h.get?_removeClient, and_assoc]
  cases htracking : r.tracking with
  | false =>
    have hsame : (r.removeClient c).1.pending = [] :=
      (pending_removeAll_of_not_tracking _ htracking).trans hnone
    rw [hsame]
    exact iff_of_false List.not_mem_nil fun hchange => nomatch hchange.1
  | true =>
    obtain ⟨changes, hpending, -, hchanges⟩ :=
      Tracks.pending_removeAll (r.byClient.under c).toList ⟨h, htracking⟩
    have hqueued : (r.removeClient c).1.pending = changes := by
      rw [removeClient, hpending, hnone, List.nil_append]
    rw [hqueued, hchanges]
    constructor
    · rintro ⟨hkind, hbefore, hafter⟩
      have hothers := mt hkeys.mpr hafter
      obtain ⟨n, s, hs, hkey⟩ := h.mem_keys_iff.mp hbefore
      have hclient : s.client = c := by
        apply Decidable.byContradiction
        exact fun hother => hothers ⟨n, s, hs, hother, hkey⟩
      exact ⟨rfl, hkind, ⟨n, s, hs, hclient, hkey⟩, hothers⟩
    · rintro ⟨-, hkind, ⟨n, s, hs, -, hkey⟩, hothers⟩
      exact ⟨hkind, h.mem_keys_iff.mpr ⟨n, s, hs, hkey⟩, mt hkeys.mp hothers⟩

end Registry

end MessageBroker
