/-
# Editing a registry

Entering a subscription and removing one keep a registry sound and readable. What a
registry holds after an edit is said of its map of subscriptions alone: an entry adds one
subscription, unless its client has one with the same filter, and a removal takes out the
subscription with the number, if there is one.

The indexes have to be brought up to date for this, and the counts of keys tell which
entry was the first with its key and which removal took the last.
-/

import MessageBroker.Proofs.Registry.Indexes

open Std

namespace MessageBroker

namespace Registry

variable {r : Registry} {s : Subscription}

/-- The indexes of the empty registry divide no subscriptions. -/
theorem divides_empty (separator : Char) (tracking : Bool) :
    (empty separator tracking).Divides ∅ where
  mem_unfiltered := by simp [empty]
  plain := IdIndex.follows_empty
  patterns := by
    have hids : (empty separator tracking).patternIds = ∅ := by
      apply ExtTreeMap.ext_getElem?
      simp [patternIds, empty]
    rw [hids]
    exact IdIndex.follows_empty

/-- The empty registry is sound. -/
theorem sound_empty (separator : Char) (tracking : Bool) : (empty separator tracking).Sound where
  id_eq := by simp [empty, get?]
  subtopics := divides_empty separator tracking
  byClient := IdIndex.follows_empty
  keyCounts key := by
    have hnone : (empty separator tracking).withKey key = ∅ := by
      apply ExtTreeMap.ext_getElem?
      simp [withKey, empty]
    rw [hnone]
    simp [empty]
  keyCounts_pos := by simp [empty]
  single := by simp [empty, get?]

/-- The empty registry is readable. -/
theorem readable_empty (separator : Char) (tracking : Bool) :
    (empty separator tracking).Readable where
  subtopics := by simp [empty, get?]
  patterns := by simp [empty]

/-- The subscriptions of a client are found through the index of clients. -/
theorem Sound.mem_ofClient (h : r.Sound) (c : ClientId) :
    s ∈ r.ofClient c ↔ r.get? s.id = some s ∧ s.client = c := by
  rw [ofClient, List.mem_filterMap]
  simp only [ExtTreeSet.mem_toList, h.byClient.mem_under, Option.some.injEq]
  constructor
  · rintro ⟨id, ⟨t, ht, hclient⟩, hget⟩
    have hsame : t = s := Option.some.inj (ht.symm.trans hget)
    subst hsame
    rw [h.id_eq hget]
    exact ⟨hget, hclient⟩
  · rintro ⟨hget, hclient⟩
    exact ⟨s.id, ⟨s, hget, hclient⟩, hget⟩

/-- The clients of a registry are those of its subscriptions. -/
theorem Sound.mem_clients (h : r.Sound) (c : ClientId) :
    c ∈ r.clients ↔ ∃ s, r.get? s.id = some s ∧ s.client = c := by
  rw [clients, h.byClient.mem_keys]
  constructor
  · rintro ⟨id, s, hget, hclient⟩
    refine ⟨s, ?_, Option.some.inj hclient⟩
    rw [h.id_eq hget]
    exact hget
  · rintro ⟨s, hget, rfl⟩
    exact ⟨s.id, s, hget, rfl⟩

/-- A subscription is listed when it is held under its number. -/
theorem Sound.mem_toList (h : r.Sound) : s ∈ r.toList ↔ r.get? s.id = some s := by
  rw [toList, Maps.mem_values_iff]
  constructor
  · rintro ⟨id, hid⟩
    have hget : r.get? id = some s := hid
    rw [h.id_eq hget]
    exact hget
  · exact fun hget => ⟨s.id, hget⟩

theorem Sound.getD_keyCounts_eq_zero (h : r.Sound) (key : SubscriptionKey) :
    (r.keyCounts[key]?).getD 0 = 0 ↔ key ∉ r.keys := by
  have hpos := h.keyCounts_pos key
  rw [keys, ExtTreeMap.mem_keys, ExtTreeMap.mem_iff_isSome_getElem?]
  cases hcount : r.keyCounts[key]? with
  | none => simp
  | some n =>
    rw [hcount, ne_eq, Option.some.injEq] at hpos
    simp [hpos]

/-- The keys of a registry are those of its subscriptions. -/
theorem Sound.mem_keys (h : r.Sound) (key : SubscriptionKey) :
    key ∈ r.keys ↔ key ∈ r.toList.map (·.key) := by
  have hempty : key ∉ r.keys ↔ r.withKey key = ∅ := by
    rw [← h.getD_keyCounts_eq_zero, h.keyCounts, ExtTreeMap.eq_empty_iff_size_eq_zero]
  have hmember : r.withKey key = ∅ ↔ key ∉ r.toList.map (·.key) := by
    rw [List.mem_map]
    constructor
    · rintro hnone ⟨s, hs, hkey⟩
      have hget : r.subscriptions[s.id]? = some s := h.mem_toList.mp hs
      have hfound : (r.withKey key)[s.id]? = some s := by
        rw [withKey, ExtTreeMap.getElem?_filter', hget, Option.filter_some, hkey]
        simp
      rw [hnone] at hfound
      simp at hfound
    · intro hnot
      apply ExtTreeMap.ext_getElem?
      intro id
      rw [withKey, ExtTreeMap.getElem?_filter', ExtTreeMap.getElem?_empty,
        Option.filter_eq_none_iff]
      intro s hget hkey
      have hid := h.id_eq hget
      refine hnot ⟨s, h.mem_toList.mpr ?_, of_decide_eq_true hkey⟩
      rw [hid]
      exact hget
  exact Decidable.not_iff_not.mp (hempty.trans hmember)

/-! ## Entering -/

section Entering

/-- Entering a subscription whose client has one with the same filter changes nothing. -/
theorem insert_of_existing {old : Subscription}
    (h : (r.ofClient s.client).find? s.sameFilter = some old) :
    r.insert s = (r, ⟨old, true, false⟩) := by
  simp only [insert, h]

/-- What entering a new subscription makes of a registry. -/
theorem insert_of_new (h : (r.ofClient s.client).find? s.sameFilter = none) :
    r.insert s =
      ({ r with
          subscriptions := r.subscriptions.insert s.id s
          unfiltered := (r.indexSubtopic s).unfiltered
          plain := (r.indexSubtopic s).plain
          patterns := (r.indexSubtopic s).patterns
          byClient := r.byClient.add s.client s.id
          keyCounts := r.keyCounts.insert s.key ((r.keyCounts[s.key]?).getD 0 + 1)
          pending := if r.tracking ∧ (r.keyCounts[s.key]?).getD 0 = 0
            then r.pending ++ [⟨s.key, .added⟩] else r.pending },
        ⟨s, false, (r.keyCounts[s.key]?).getD 0 = 0⟩) := by
  have hindex : r.indexSubtopic s =
      { r with
        unfiltered := (r.indexSubtopic s).unfiltered
        plain := (r.indexSubtopic s).plain
        patterns := (r.indexSubtopic s).patterns } := by
    unfold indexSubtopic
    split
    · rfl
    · split <;> rfl
  simp only [insert, h, countKey]
  rw [hindex]
  by_cases hfirst : (r.keyCounts[s.key]?).getD 0 = 0
  · cases htracking : r.tracking <;> simp [hfirst, queue]
  · simp [hfirst]

/-- The subscriptions of a registry after one was entered. -/
theorem get?_insert_of_new (h : (r.ofClient s.client).find? s.sameFilter = none)
    (id : SubscriptionId) :
    (r.insert s).1.get? id = if s.id = id then some s else r.get? id := by
  rw [insert_of_new h, get?, get?, Maps.getElem?_insert_ite]

theorem size_insert_of_new (h : (r.ofClient s.client).find? s.sameFilter = none)
    (fresh : r.get? s.id = none) : (r.insert s).1.size = r.size + 1 := by
  rw [insert_of_new h]
  exact Maps.size_insert_of_none fresh

theorem separator_insert (r : Registry) (s : Subscription) :
    (r.insert s).1.separator = r.separator := by
  cases h : (r.ofClient s.client).find? s.sameFilter with
  | some old => rw [insert_of_existing h]
  | none => rw [insert_of_new h]

theorem tracking_insert (r : Registry) (s : Subscription) :
    (r.insert s).1.tracking = r.tracking := by
  cases h : (r.ofClient s.client).find? s.sameFilter with
  | some old => rw [insert_of_existing h]
  | none => rw [insert_of_new h]

theorem get?_insert_of_ne {id : SubscriptionId} (hne : s.id ≠ id) :
    (r.insert s).1.get? id = r.get? id := by
  cases h : (r.ofClient s.client).find? s.sameFilter with
  | some old => rw [insert_of_existing h]
  | none => rw [get?_insert_of_new h, if_neg hne]

/-- A subscription without subtopic is only entered among those. -/
theorem indexSubtopic_of_none (h : s.subtopic = none) :
    r.indexSubtopic s = { r with unfiltered := r.unfiltered.insert s.id } := by
  simp only [indexSubtopic, h]

/-- A subscription with a plain subtopic is only entered under its text. -/
theorem indexSubtopic_of_plain {t : Subtopic} (h : s.subtopic = some t)
    (hwild : t.hasWildcard = false) :
    r.indexSubtopic s = { r with plain := r.plain.add t.value s.id } := by
  simp [indexSubtopic, h, hwild]

/-- A subscription with a pattern is only entered under the text of the pattern. -/
theorem indexSubtopic_of_pattern {t : Subtopic} (h : s.subtopic = some t)
    (hwild : t.hasWildcard = true) :
    r.indexSubtopic s =
      { r with
        patterns := r.patterns.insert t.value
          { pattern := ((r.patterns[t.value]?).getD ⟨t, ∅⟩).pattern
            ids := ((r.patterns[t.value]?).getD ⟨t, ∅⟩).ids.insert s.id } } := by
  simp [indexSubtopic, h, hwild]

/-- Entering a number under a pattern adds it to the numbers of the pattern. -/
theorem patternIds_indexSubtopic {t : Subtopic} (h : s.subtopic = some t)
    (hwild : t.hasWildcard = true) :
    (r.indexSubtopic s).patternIds = r.patternIds.add t.value s.id := by
  rw [indexSubtopic_of_pattern h hwild]
  apply ExtTreeMap.ext_getElem?
  intro text
  simp only [patternIds, IdIndex.add, ExtTreeMap.getElem?_map, Maps.getElem?_insert_ite]
  by_cases htext : t.value = text
  · cases r.patterns[t.value]? <;> simp [htext]
  · simp [htext]

/-- The indexes of subtopics divide the subscriptions also after one was entered. -/
theorem Divides.indexSubtopic {subs : ExtTreeMap SubscriptionId Subscription}
    (h : r.Divides subs) (fresh : subs[s.id]? = none) :
    (r.indexSubtopic s).Divides (subs.insert s.id s) := by
  have hunfiltered (hs : s.subtopic ≠ none) (id : SubscriptionId) :
      id ∈ r.unfiltered ↔ ∃ t, (subs.insert s.id s)[id]? = some t ∧ t.subtopic = none := by
    rw [Maps.exists_getElem?_insert s fresh, h.mem_unfiltered]
    simp [hs]
  cases hsub : s.subtopic with
  | none =>
    obtain ⟨hplain, hpattern⟩ := Subscription.texts_of_none hsub
    rw [indexSubtopic_of_none hsub]
    refine ⟨fun id => ?_, h.plain.insert_of_none fresh hplain,
      h.patterns.insert_of_none fresh hpattern⟩
    rw [Maps.exists_getElem?_insert s fresh, ← h.mem_unfiltered, ExtTreeSet.mem_insert,
      Std.compare_eq_iff_eq]
    simp [hsub]
  | some t =>
    have hsome : s.subtopic ≠ none := by simp [hsub]
    cases hwild : t.hasWildcard with
    | false =>
      obtain ⟨hplain, hpattern⟩ := Subscription.texts_of_plain hsub hwild
      rw [indexSubtopic_of_plain hsub hwild]
      exact ⟨hunfiltered hsome, h.plain.insert_of_some fresh hplain,
        h.patterns.insert_of_none fresh hpattern⟩
    | true =>
      obtain ⟨hplain, hpattern⟩ := Subscription.texts_of_pattern hsub hwild
      refine ⟨?_, ?_, ?_⟩
      · rw [indexSubtopic_of_pattern hsub hwild]
        exact hunfiltered hsome
      · rw [indexSubtopic_of_pattern hsub hwild]
        exact h.plain.insert_of_none fresh hplain
      · rw [patternIds_indexSubtopic hsub hwild]
        exact h.patterns.insert_of_some fresh hpattern

/-- A pattern that is entered was read with the separator if its subscription was. -/
theorem Readable.patterns_indexSubtopic (h : r.Readable) (hs : s.ReadWith r.separator)
    {text : String} {entry : PatternEntry}
    (hentry : (r.indexSubtopic s).patterns[text]? = some entry) :
    entry.pattern.ParsedWith r.separator ∧ entry.pattern.value = text := by
  cases hsub : s.subtopic with
  | none =>
    rw [indexSubtopic_of_none hsub] at hentry
    exact h.patterns hentry
  | some t =>
    cases hwild : t.hasWildcard with
    | false =>
      rw [indexSubtopic_of_plain hsub hwild] at hentry
      exact h.patterns hentry
    | true =>
      rw [indexSubtopic_of_pattern hsub hwild, Maps.getElem?_insert_ite] at hentry
      by_cases htext : t.value = text
      · rw [if_pos htext] at hentry
        cases Option.some.inj hentry
        cases hold : r.patterns[t.value]? with
        | none => exact ⟨hs t hsub, htext⟩
        | some old =>
          obtain ⟨hread, hvalue⟩ := h.patterns hold
          exact ⟨hread, hvalue.trans htext⟩
      · rw [if_neg htext] at hentry
        exact h.patterns hentry

/-- A sound registry stays sound when a subscription with a new number is entered. -/
theorem Sound.insert (h : r.Sound) (fresh : r.get? s.id = none) : (r.insert s).1.Sound := by
  cases hfind : (r.ofClient s.client).find? s.sameFilter with
  | some old =>
    rw [insert_of_existing hfind]
    exact h
  | none =>
    have hget := get?_insert_of_new hfind
    have hdivides := h.subtopics.indexSubtopic fresh
    have halone {id : SubscriptionId} {t : Subscription} (ht : r.get? id = some t)
        (hclient : t.client = s.client) : s.sameFilter t = false := by
      have hmem : t ∈ r.ofClient s.client := by
        rw [h.mem_ofClient, h.id_eq ht]
        exact ⟨ht, hclient⟩
      exact Bool.eq_false_iff.mpr (List.find?_eq_none.mp hfind t hmem)
    rw [insert_of_new hfind] at hget ⊢
    refine ⟨?_, ⟨hdivides.mem_unfiltered, hdivides.plain, hdivides.patterns⟩,
      h.byClient.insert_of_some fresh rfl, ?_, ?_, ?_⟩
    · intro id t ht
      rw [hget] at ht
      split at ht
      next hid => rw [← Option.some.inj ht, hid]
      next => exact h.id_eq ht
    · intro key
      have hsize := Maps.size_filter_insert_of_none (v := s) (fun _ t => decide (t.key = key)) fresh
      show _ = ((r.subscriptions.insert s.id s).filter fun _ t => decide (t.key = key)).size
      rw [hsize, Maps.getElem?_insert_ite]
      by_cases hkey : s.key = key
      · subst hkey
        simp [h.keyCounts, withKey]
      · simp [hkey, h.keyCounts, withKey]
    · intro key
      show (r.keyCounts.insert s.key _)[key]? ≠ some 0
      rw [Maps.getElem?_insert_ite]
      split
      next => simp
      next => exact h.keyCounts_pos key
    · intro i j t u ht hu hclient hsame
      rw [hget] at ht hu
      split at ht
      next hi =>
        split at hu
        next hj => exact hi.symm.trans hj
        next =>
          cases Option.some.inj ht
          rw [halone hu hclient.symm] at hsame
          cases hsame
      next =>
        split at hu
        next =>
          cases Option.some.inj hu
          obtain ⟨hsubtopic, hselector⟩ := Subscription.sameFilter_iff.mp hsame
          have hback : s.sameFilter t = true :=
            Subscription.sameFilter_iff.mpr ⟨hsubtopic.symm, hselector.symm⟩
          rw [halone ht hclient] at hback
          cases hback
        next => exact h.single ht hu hclient hsame

/-- A readable registry stays readable when a readable subscription is entered. -/
theorem Readable.insert (h : r.Readable) (hs : s.ReadWith r.separator) :
    (r.insert s).1.Readable := by
  cases hfind : (r.ofClient s.client).find? s.sameFilter with
  | some old =>
    rw [insert_of_existing hfind]
    exact h
  | none =>
    have hget := get?_insert_of_new hfind
    rw [insert_of_new hfind] at hget ⊢
    refine ⟨?_, h.patterns_indexSubtopic hs⟩
    intro id t ht
    rw [hget] at ht
    split at ht
    next =>
      cases Option.some.inj ht
      exact hs
    next => exact h.subtopics ht

end Entering

/-! ## Taking out -/

section TakingOut

variable {id : SubscriptionId}

/-- A subscription without subtopic is only dropped from those. -/
theorem unindexSubtopic_of_none (h : s.subtopic = none) :
    r.unindexSubtopic s = { r with unfiltered := r.unfiltered.erase s.id } := by
  simp only [unindexSubtopic, h]

/-- A subscription with a plain subtopic is only dropped from under its text. -/
theorem unindexSubtopic_of_plain {t : Subtopic} (h : s.subtopic = some t)
    (hwild : t.hasWildcard = false) :
    r.unindexSubtopic s = { r with plain := r.plain.drop t.value s.id } := by
  simp [unindexSubtopic, h, hwild]

/-- A subscription with a pattern is only dropped from under the text of the pattern. -/
theorem unindexSubtopic_of_pattern {t : Subtopic} (h : s.subtopic = some t)
    (hwild : t.hasWildcard = true) :
    r.unindexSubtopic s = { r with patterns := (r.unindexSubtopic s).patterns } := by
  simp only [unindexSubtopic, h, hwild, if_true]
  cases r.patterns[t.value]? with
  | none => rfl
  | some entry =>
    simp only
    split <;> rfl

/-- Dropping a number from under a pattern drops it from the numbers of the pattern. -/
theorem patternIds_unindexSubtopic {t : Subtopic} (h : s.subtopic = some t)
    (hwild : t.hasWildcard = true) :
    (r.unindexSubtopic s).patternIds = r.patternIds.drop t.value s.id := by
  have hids (text : String) : r.patternIds[text]? = r.patterns[text]?.map (·.ids) := by
    rw [patternIds, ExtTreeMap.getElem?_map]
  simp only [unindexSubtopic, h, hwild, if_true]
  cases hentry : r.patterns[t.value]? with
  | none =>
    have hnone : r.patternIds[t.value]? = none := by rw [hids, hentry]; rfl
    rw [IdIndex.drop_of_none hnone]
  | some entry =>
    have hsome : r.patternIds[t.value]? = some entry.ids := by rw [hids, hentry]; rfl
    rw [IdIndex.drop_of_some hsome]
    apply ExtTreeMap.ext_getElem?
    intro text
    by_cases hempty : entry.ids.erase s.id = ∅
    · simp only [hempty, ExtTreeSet.isEmpty_empty, if_true, patternIds, ExtTreeMap.getElem?_map,
        Maps.getElem?_erase_ite]
      split <;> rfl
    · simp only [ExtTreeSet.isEmpty_iff, hempty, if_false, patternIds, ExtTreeMap.getElem?_map,
        Maps.getElem?_insert_ite]
      split <;> rfl

/-- The indexes of subtopics divide the subscriptions also after one was taken out. -/
theorem Divides.unindexSubtopic {subs : ExtTreeMap SubscriptionId Subscription}
    (h : r.Divides subs) (hget : subs[s.id]? = some s) :
    (r.unindexSubtopic s).Divides (subs.erase s.id) := by
  have hunfiltered (hs : s.subtopic ≠ none) (i : SubscriptionId) :
      i ∈ r.unfiltered ↔ ∃ t, (subs.erase s.id)[i]? = some t ∧ t.subtopic = none := by
    rw [Maps.exists_getElem?_erase, h.mem_unfiltered, and_iff_right_of_imp]
    rintro ⟨t, ht, hnone⟩ rfl
    rw [← Option.some.inj (hget.symm.trans ht)] at hnone
    exact hs hnone
  cases hsub : s.subtopic with
  | none =>
    obtain ⟨hplain, hpattern⟩ := Subscription.texts_of_none hsub
    rw [unindexSubtopic_of_none hsub]
    refine ⟨fun i => ?_, h.plain.erase_of_none hget hplain,
      h.patterns.erase_of_none hget hpattern⟩
    rw [Maps.exists_getElem?_erase, ← h.mem_unfiltered, ExtTreeSet.mem_erase, ne_eq,
      Std.compare_eq_iff_eq]
  | some t =>
    have hsome : s.subtopic ≠ none := by simp [hsub]
    cases hwild : t.hasWildcard with
    | false =>
      obtain ⟨hplain, hpattern⟩ := Subscription.texts_of_plain hsub hwild
      rw [unindexSubtopic_of_plain hsub hwild]
      exact ⟨hunfiltered hsome, h.plain.erase_of_some hget hplain,
        h.patterns.erase_of_none hget hpattern⟩
    | true =>
      obtain ⟨hplain, hpattern⟩ := Subscription.texts_of_pattern hsub hwild
      refine ⟨?_, ?_, ?_⟩
      · rw [unindexSubtopic_of_pattern hsub hwild]
        exact hunfiltered hsome
      · rw [unindexSubtopic_of_pattern hsub hwild]
        exact h.plain.erase_of_none hget hplain
      · rw [patternIds_unindexSubtopic hsub hwild]
        exact h.patterns.erase_of_some hget hpattern

/-- Taking a subscription out brings no pattern in. -/
theorem getElem?_patterns_unindexSubtopic {text : String} {entry : PatternEntry}
    (h : (r.unindexSubtopic s).patterns[text]? = some entry) :
    ∃ old : PatternEntry, r.patterns[text]? = some old ∧ old.pattern = entry.pattern := by
  cases hsub : s.subtopic with
  | none =>
    rw [unindexSubtopic_of_none hsub] at h
    exact ⟨entry, h, rfl⟩
  | some t =>
    cases hwild : t.hasWildcard with
    | false =>
      rw [unindexSubtopic_of_plain hsub hwild] at h
      exact ⟨entry, h, rfl⟩
    | true =>
      simp only [unindexSubtopic, hsub, hwild, if_true] at h
      cases hold : r.patterns[t.value]? with
      | none =>
        simp only [hold] at h
        exact ⟨entry, h, rfl⟩
      | some old =>
        simp only [hold] at h
        split at h
        · rw [Maps.getElem?_erase_ite] at h
          split at h
          · cases h
          · exact ⟨entry, h, rfl⟩
        · rw [Maps.getElem?_insert_ite] at h
          split at h
          next htext =>
            cases Option.some.inj h
            exact ⟨old, htext ▸ hold, rfl⟩
          next => exact ⟨entry, h, rfl⟩

/-- What dropping a subscription from the indexes of subtopics does not touch. -/
theorem unindexSubtopic_with (subs : ExtTreeMap SubscriptionId Subscription) :
    unindexSubtopic { r with subscriptions := subs } s =
      { r with
        subscriptions := subs
        unfiltered := (r.unindexSubtopic s).unfiltered
        plain := (r.unindexSubtopic s).plain
        patterns := (r.unindexSubtopic s).patterns } := by
  unfold unindexSubtopic
  split
  · rfl
  next t _ =>
    split
    · cases r.patterns[t.value]? with
      | none => rfl
      | some entry =>
        dsimp only
        split <;> rfl
    · rfl

/-- A key is forgotten when it is counted down from one. -/
theorem uncountKey_eq (key : SubscriptionKey) :
    r.uncountKey key =
      ({ r with
          keyCounts := if (r.keyCounts[key]?).getD 0 ≤ 1 then r.keyCounts.erase key
            else r.keyCounts.insert key ((r.keyCounts[key]?).getD 0 - 1) },
        decide ((r.keyCounts[key]?).getD 0 ≤ 1)) := by
  unfold uncountKey
  cases hcount : r.keyCounts[key]? with
  | none => simp
  | some n =>
    match n with
    | 0 => simp
    | 1 => simp
    | n + 2 => simp

/-- Removing a number that is not in use changes nothing. -/
theorem remove_of_none (h : r.get? id = none) : r.remove id = (r, none) := by
  simp only [remove, h]

/-- What removing a subscription makes of a registry. -/
theorem remove_of_some (h : r.get? id = some s) :
    r.remove id =
      ({ r with
          subscriptions := r.subscriptions.erase id
          unfiltered := (r.unindexSubtopic s).unfiltered
          plain := (r.unindexSubtopic s).plain
          patterns := (r.unindexSubtopic s).patterns
          byClient := r.byClient.drop s.client id
          keyCounts := if (r.keyCounts[s.key]?).getD 0 ≤ 1 then r.keyCounts.erase s.key
            else r.keyCounts.insert s.key ((r.keyCounts[s.key]?).getD 0 - 1)
          pending := if r.tracking ∧ (r.keyCounts[s.key]?).getD 0 ≤ 1
            then r.pending ++ [⟨s.key, .removed⟩] else r.pending },
        some ⟨s, (r.keyCounts[s.key]?).getD 0 ≤ 1⟩) := by
  simp only [remove, h]
  rw [unindexSubtopic_with, uncountKey_eq]
  by_cases hlast : (r.keyCounts[s.key]?).getD 0 ≤ 1
  · cases htracking : r.tracking <;> simp [hlast, queue]
  · simp [hlast]

/-- The subscriptions of a registry after a removal. -/
theorem get?_remove (r : Registry) (id i : SubscriptionId) :
    (r.remove id).1.get? i = if id = i then none else r.get? i := by
  cases hget : r.get? id with
  | none =>
    rw [remove_of_none hget]
    split
    next heq => rw [← heq, hget]
    next => rfl
  | some s => rw [remove_of_some hget, get?, get?, Maps.getElem?_erase_ite]

/-- A sound registry stays sound when a subscription is removed. -/
theorem Sound.remove (h : r.Sound) (id : SubscriptionId) : (r.remove id).1.Sound := by
  cases hsome : r.get? id with
  | none =>
    rw [remove_of_none hsome]
    exact h
  | some s =>
    have hget := get?_remove r id
    have hid : s.id = id := h.id_eq hsome
    have hdivides := h.subtopics.unindexSubtopic (s := s) (by rw [hid]; exact hsome)
    rw [hid] at hdivides
    rw [remove_of_some hsome] at hget ⊢
    refine ⟨?_, ⟨hdivides.mem_unfiltered, hdivides.plain, hdivides.patterns⟩,
      h.byClient.erase_of_some hsome rfl, ?_, ?_, ?_⟩
    · intro i t ht
      rw [hget] at ht
      split at ht
      next => cases ht
      next => exact h.id_eq ht
    · intro key
      have hsize := Maps.size_filter_erase_of_some (fun _ t => decide (t.key = key)) hsome
      have hcount := h.keyCounts key
      show ((if _ then _ else _ : ExtTreeMap SubscriptionKey Nat)[key]?).getD 0 =
        ((r.subscriptions.erase id).filter fun _ t => decide (t.key = key)).size
      rw [withKey] at hcount
      by_cases hkey : s.key = key
      · subst hkey
        simp only [decide_true, if_true] at hsize
        split
        next hlast =>
          rw [ExtTreeMap.getElem?_erase_self, Option.getD_none]
          omega
        next =>
          rw [ExtTreeMap.getElem?_insert_self, Option.getD_some]
          omega
      · simp only [hkey, decide_false, Bool.false_eq_true, if_false, Nat.add_zero] at hsize
        rw [hsize, ← hcount]
        split
        next => rw [Maps.getElem?_erase_ite, if_neg hkey]
        next => rw [Maps.getElem?_insert_ite, if_neg hkey]
    · intro key
      show (if _ then _ else _ : ExtTreeMap SubscriptionKey Nat)[key]? ≠ some 0
      split
      next =>
        rw [Maps.getElem?_erase_ite]
        split
        · simp
        · exact h.keyCounts_pos key
      next hmany =>
        rw [Maps.getElem?_insert_ite]
        split
        · rw [ne_eq, Option.some.injEq]
          omega
        · exact h.keyCounts_pos key
    · intro i j t u ht hu hclient hsame
      rw [hget] at ht hu
      split at ht
      · cases ht
      · split at hu
        · cases hu
        · exact h.single ht hu hclient hsame

/-- A readable registry stays readable when a subscription is removed. -/
theorem Readable.remove (h : r.Readable) (id : SubscriptionId) : (r.remove id).1.Readable := by
  cases hsome : r.get? id with
  | none =>
    rw [remove_of_none hsome]
    exact h
  | some s =>
    have hget := get?_remove r id
    rw [remove_of_some hsome] at hget ⊢
    constructor
    · intro i t ht
      rw [hget] at ht
      split at ht
      · cases ht
      · exact h.subtopics ht
    · intro text entry hentry
      obtain ⟨old, hold, hpattern⟩ := getElem?_patterns_unindexSubtopic hentry
      rw [← hpattern]
      exact h.patterns hold

end TakingOut

end Registry

end MessageBroker
