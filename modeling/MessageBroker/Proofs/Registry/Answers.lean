/-
# What a registry answers

An entry tells whether the client had the same subscription already and whether its key is
new; a removal tells whether the last subscription with a key went. Both are read from
indexes and counters. Here they are said of the list of registered subscriptions alone, as
are the listings of keys and of clients. An entry that is taken back at once leaves every
index and counter as it was, so that nothing drifts however often this is repeated.

The statement is about all registries that edits and the telling of queued changes lead to.
-/

import Mathlib.Data.List.Dedup
import MessageBroker.Proofs.Registry.Candidates

open Std

namespace MessageBroker

/-! ## Taking back what was added -/

namespace IdIndex

/-- A set from which a new number is erased again. -/
theorem erase_insert {ids : IdSet} {id : SubscriptionId} (h : id ∉ ids) :
    (ids.insert id).erase id = ids := by
  apply ExtTreeSet.ext_mem
  intro i
  rw [ExtTreeSet.mem_erase, ExtTreeSet.mem_insert, ne_eq, Std.compare_eq_iff_eq]
  constructor
  · rintro ⟨hne, heq | hi⟩
    · exact absurd heq hne
    · exact hi
  · intro hi
    exact ⟨fun heq => h (heq ▸ hi), .inr hi⟩

variable {κ : Type} [Ord κ] [TransOrd κ] [LawfulEqOrd κ] [DecidableEq κ]

/-- A new number that is dropped again leaves an index without empty sets as it was. -/
theorem drop_add {index : IdIndex κ} {k : κ} {id : SubscriptionId} (h : id ∉ index.under k)
    (htight : index[k]? ≠ some ∅) : (index.add k id).drop k id = index := by
  have hadded : (index.add k id)[k]? = some ((index.under k).insert id) := by
    rw [add, Maps.getElem?_insert_ite, if_pos rfl, under]
  rw [drop_of_some hadded, erase_insert h, add]
  cases hk : index[k]? with
  | none =>
    have hunder : index.under k = ∅ := by rw [under, hk]; rfl
    rw [if_pos hunder, Maps.erase_insert_of_none _ hk]
  | some ids =>
    have hunder : index.under k = ids := by rw [under, hk]; rfl
    have hids : ids ≠ ∅ := fun hempty => htight (hempty ▸ hk)
    rw [hunder, if_neg hids, Maps.insert_insert_of_some _ hk]

end IdIndex

namespace Registry

variable {r r' : Registry} {s t : Subscription} {id : SubscriptionId}

/-- The same of the patterns: one that was there keeps its entry, one that came goes. -/
theorem Divides.patterns_unindexSubtopic_of_indexed {subs : ExtTreeMap SubscriptionId Subscription}
    (h : r.Divides subs) (hfresh : subs[s.id]? = none) {p : Subtopic} (hsub : s.subtopic = some p)
    (hwild : p.hasWildcard = true)
    (hpatterns : r'.patterns = r.patterns.insert p.value
      { pattern := ((r.patterns[p.value]?).getD ⟨p, ∅⟩).pattern
        ids := ((r.patterns[p.value]?).getD ⟨p, ∅⟩).ids.insert s.id }) :
    (r'.unindexSubtopic s).patterns = r.patterns := by
  have hnew : s.id ∉ r.patternIds.under p.value := by
    rw [h.patterns.mem_under, hfresh]
    simp
  have htight := h.patterns.tight p.value
  simp only [IdIndex.under, patternIds, ExtTreeMap.getElem?_map] at hnew htight
  have hentry : r'.patterns[p.value]? = some
      { pattern := ((r.patterns[p.value]?).getD ⟨p, ∅⟩).pattern
        ids := ((r.patterns[p.value]?).getD ⟨p, ∅⟩).ids.insert s.id } := by
    rw [hpatterns, ExtTreeMap.getElem?_insert_self]
  simp only [Registry.unindexSubtopic, hsub, hwild, if_true, hentry, ExtTreeSet.isEmpty_iff]
  cases hold : r.patterns[p.value]? with
  | none =>
    have hempty : ((∅ : IdSet).insert s.id).erase s.id = ∅ :=
      IdIndex.erase_insert ExtTreeSet.not_mem_empty
    rw [Option.getD_none, if_pos hempty]
    simp only [hpatterns]
    exact Maps.erase_insert_of_none _ hold
  | some old =>
    simp only [hold, Option.map_some, Option.getD_some, ne_eq, Option.some.injEq] at hnew htight
    simp only [Option.getD_some, IdIndex.erase_insert hnew, if_neg htight, hpatterns]
    exact Maps.insert_insert_of_some _ hold

/-- Indexes of subtopics from which a new subscription is dropped again are as before. -/
theorem Divides.unindexSubtopic_of_indexed {subs : ExtTreeMap SubscriptionId Subscription}
    (h : r.Divides subs) (hfresh : subs[s.id]? = none)
    (hunfiltered : r'.unfiltered = (r.indexSubtopic s).unfiltered)
    (hplain : r'.plain = (r.indexSubtopic s).plain)
    (hpatterns : r'.patterns = (r.indexSubtopic s).patterns) :
    (r'.unindexSubtopic s).unfiltered = r.unfiltered ∧
      (r'.unindexSubtopic s).plain = r.plain ∧
      (r'.unindexSubtopic s).patterns = r.patterns := by
  cases hsub : s.subtopic with
  | none =>
    have hnew : s.id ∉ r.unfiltered := by
      rw [h.mem_unfiltered, hfresh]
      simp
    rw [indexSubtopic_of_none hsub] at hunfiltered hplain hpatterns
    rw [unindexSubtopic_of_none hsub, hunfiltered]
    exact ⟨IdIndex.erase_insert hnew, hplain, hpatterns⟩
  | some t =>
    cases hwild : t.hasWildcard with
    | false =>
      have hnew : s.id ∉ r.plain.under t.value := by
        rw [h.plain.mem_under, hfresh]
        simp
      rw [indexSubtopic_of_plain hsub hwild] at hunfiltered hplain hpatterns
      rw [unindexSubtopic_of_plain hsub hwild, hplain]
      exact ⟨hunfiltered, IdIndex.drop_add hnew (h.plain.tight _), hpatterns⟩
    | true =>
      rw [indexSubtopic_of_pattern hsub hwild] at hunfiltered hplain hpatterns
      have hother := unindexSubtopic_of_pattern (r := r') hsub hwild
      refine ⟨?_, ?_, ?_⟩
      · rw [hother]
        exact hunfiltered
      · rw [hother]
        exact hplain
      · exact h.patterns_unindexSubtopic_of_indexed hfresh hsub hwild hpatterns

/-! ## What entries and removals answer -/

/-- Whether the client of a subscription has one with the same filter registered. -/
def Has (r : Registry) (s : Subscription) : Prop :=
  ∃ t ∈ r.toList, t.client = s.client ∧ t.subtopic = s.subtopic ∧ t.selector = s.selector

/-- The one with the same filter is searched among the subscriptions of the client. -/
theorem Sound.exists_of_find?_eq_some (h : r.Sound)
    (hs : (r.ofClient s.client).find? s.sameFilter = some t) :
    t ∈ r.toList ∧ t.client = s.client ∧ t.subtopic = s.subtopic ∧ t.selector = s.selector := by
  obtain ⟨hget, hclient⟩ := (h.mem_ofClient _).mp (List.mem_of_find?_eq_some hs)
  obtain ⟨hsubtopic, hselector⟩ := Subscription.sameFilter_iff.mp (List.find?_some hs)
  exact ⟨h.mem_toList.mpr hget, hclient, hsubtopic.symm, hselector.symm⟩

theorem Sound.not_has_of_find?_eq_none (h : r.Sound)
    (hs : (r.ofClient s.client).find? s.sameFilter = none) : ¬r.Has s := by
  rintro ⟨t, ht, hclient, hsubtopic, hselector⟩
  exact List.find?_eq_none.mp hs t ((h.mem_ofClient _).mpr ⟨h.mem_toList.mp ht, hclient⟩)
    (Subscription.sameFilter_iff.mpr ⟨hsubtopic.symm, hselector.symm⟩)

/-- The subscriptions registered after a new one was entered. -/
theorem Sound.mem_toList_insert (h : r.Sound) (hfresh : r.get? s.id = none)
    (hnew : (r.ofClient s.client).find? s.sameFilter = none) :
    t ∈ (r.insert s).1.toList ↔ t = s ∨ t ∈ r.toList := by
  rw [(h.insert hfresh).mem_toList, h.mem_toList, get?_insert_of_new hnew]
  by_cases hid : s.id = t.id
  · rw [if_pos hid, ← hid, hfresh]
    simp [eq_comm]
  · rw [if_neg hid]
    exact (or_iff_right fun heq => hid (congrArg (·.id) heq.symm)).symm

/-- The subscriptions registered after one was removed. -/
theorem Sound.mem_toList_remove (h : r.Sound) (id : SubscriptionId) :
    t ∈ (r.remove id).1.toList ↔ t ∈ r.toList ∧ t.id ≠ id := by
  rw [(h.remove id).mem_toList, h.mem_toList, get?_remove]
  by_cases hid : id = t.id
  · simp [hid]
  · simp [hid, Ne.symm hid]

/-- A new key is counted from zero. -/
theorem Sound.getD_keyCounts_eq_zero_iff (h : r.Sound) (key : SubscriptionKey) :
    (r.keyCounts[key]?).getD 0 = 0 ↔ ∀ t ∈ r.toList, t.key ≠ key := by
  rw [h.getD_keyCounts_eq_zero, h.mem_keys]
  simp

/-- A key is counted down from one when no subscription has it after the removal. -/
theorem Sound.getD_keyCounts_le_one_iff (h : r.Sound) (hs : r.get? id = some s) :
    (r.keyCounts[s.key]?).getD 0 ≤ 1 ↔ ∀ t ∈ (r.remove id).1.toList, t.key ≠ s.key := by
  rw [← (h.remove id).getD_keyCounts_eq_zero_iff, remove_of_some hs]
  by_cases hlast : (r.keyCounts[s.key]?).getD 0 ≤ 1
  · simp [hlast]
  · simp only [hlast, if_false, ExtTreeMap.getElem?_insert_self, Option.getD_some, false_iff]
    omega

/-- An entry that is removed again leaves everything as it was but the queue. -/
theorem Sound.remove_insert (h : r.Sound) (hfresh : r.get? s.id = none)
    (hnew : (r.ofClient s.client).find? s.sameFilter = none) :
    { ((r.insert s).1.remove s.id).1 with pending := r.pending } = r := by
  have hget : (r.insert s).1.get? s.id = some s := by rw [get?_insert_of_new hnew, if_pos rfl]
  have hunfiltered : (r.insert s).1.unfiltered = (r.indexSubtopic s).unfiltered := by
    rw [insert_of_new hnew]
  have hplain : (r.insert s).1.plain = (r.indexSubtopic s).plain := by rw [insert_of_new hnew]
  have hpatterns : (r.insert s).1.patterns = (r.indexSubtopic s).patterns := by
    rw [insert_of_new hnew]
  have hindexes := h.subtopics.unindexSubtopic_of_indexed hfresh hunfiltered hplain hpatterns
  obtain ⟨hunfiltered, hplain, hpatterns⟩ := hindexes
  have howner : s.id ∉ r.byClient.under s.client := by
    rw [h.byClient.mem_under]
    rintro ⟨t, ht, -⟩
    cases hfresh.symm.trans ht
  have hclients := IdIndex.drop_add howner (h.byClient.tight s.client)
  have hsubscriptions := Maps.erase_insert_of_none s hfresh
  rw [remove_of_some hget, hunfiltered, hplain, hpatterns, insert_of_new hnew]
  simp only [hclients, hsubscriptions, ExtTreeMap.getElem?_insert_self, Option.getD_some]
  cases hcount : r.keyCounts[s.key]? with
  | none =>
    rw [Option.getD_none, if_pos (Nat.le_refl 1), Maps.erase_insert_of_none _ hcount]
  | some n =>
    have hpos : n ≠ 0 := fun hzero => h.keyCounts_pos s.key (hzero ▸ hcount)
    rw [Option.getD_some, if_neg (by omega), Nat.add_sub_cancel,
      Maps.insert_insert_of_some _ hcount]

/-- The listings of a registry describe its subscriptions, of which no two belong to one
client and filter in the same way. -/
structure Describes (r : Registry) : Prop where
  nodup_keys : r.keys.Nodup
  mem_keys : ∀ key, key ∈ r.keys ↔ ∃ s ∈ r.toList, s.key = key
  nodup_clients : r.clients.Nodup
  mem_clients : ∀ c, c ∈ r.clients ↔ ∃ s ∈ r.toList, s.client = c
  length_clients : r.clients.length = (r.toList.map (·.client)).dedup.length
  single : ∀ s ∈ r.toList, ∀ t ∈ r.toList, s.client = t.client → s.subtopic = t.subtopic →
    s.selector = t.selector → s = t

/-- What is answered to an entry is true: a subscription that the client has already stands
for it, and any other with a new number is added, is the first with its key or not, and
leaves no trace when it is removed again. -/
structure TellsEntry (r : Registry) (s : Subscription) : Prop where
  existing : (r.insert s).2.existing = true ↔ r.Has s
  of_has : r.Has s → (r.insert s).1 = r ∧ (r.insert s).2.firstForKey = false ∧
    (r.insert s).2.subscription ∈ r.toList ∧
    (r.insert s).2.subscription.client = s.client ∧
    (r.insert s).2.subscription.subtopic = s.subtopic ∧
    (r.insert s).2.subscription.selector = s.selector
  of_not_has : ¬r.Has s → (r.insert s).2.subscription = s ∧
    ((r.insert s).2.firstForKey = true ↔ ∀ t ∈ r.toList, t.key ≠ s.key)
  of_fresh : ¬r.Has s → r.get? s.id = none →
    (∀ t, t ∈ (r.insert s).1.toList ↔ t = s ∨ t ∈ r.toList) ∧
    { ((r.insert s).1.remove s.id).1 with pending := r.pending } = r

/-- What is answered to a removal is true: the subscription that was registered under the
number, and whether it was the last with its key. -/
structure TellsRemoval (r : Registry) (id : SubscriptionId) : Prop where
  of_absent : (∀ s ∈ r.toList, s.id ≠ id) → r.remove id = (r, none)
  of_mem : ∀ s ∈ r.toList, s.id = id → ∃ last, (r.remove id).2 = some ⟨s, last⟩ ∧
    (last = true ↔ ∀ t ∈ (r.remove id).1.toList, t.key ≠ s.key)
  mem_toList : ∀ t, t ∈ (r.remove id).1.toList ↔ t ∈ r.toList ∧ t.id ≠ id

theorem Sound.describes (h : r.Sound) : r.Describes := by
  have hclients (c : ClientId) : c ∈ r.clients ↔ ∃ s ∈ r.toList, s.client = c := by
    simp only [h.mem_clients, h.mem_toList]
  have hnodup : r.clients.Nodup := r.byClient.nodup_keys
  refine ⟨r.keyCounts.nodup_keys, ?_, hnodup, hclients, ?_, ?_⟩
  · intro key
    rw [h.mem_keys, List.mem_map]
  · have hperm : r.clients.Perm (r.toList.map (·.client)).dedup := by
      rw [List.perm_ext_iff_of_nodup hnodup (List.nodup_dedup _)]
      intro c
      rw [hclients, List.mem_dedup, List.mem_map]
    exact hperm.length_eq
  · intro s hs t ht hclient hsubtopic hselector
    have hgets := h.mem_toList.mp hs
    have hgett := h.mem_toList.mp ht
    have hid := h.single hgets hgett hclient (Subscription.sameFilter_iff.mpr ⟨hsubtopic, hselector⟩)
    rw [← hid, hgets] at hgett
    exact Option.some.inj hgett

theorem Sound.tellsEntry (h : r.Sound) (s : Subscription) : r.TellsEntry s := by
  cases hfind : (r.ofClient s.client).find? s.sameFilter with
  | some old =>
    have hold := h.exists_of_find?_eq_some hfind
    have hhas : r.Has s := ⟨old, hold⟩
    refine ⟨?_, ?_, fun hnot => absurd hhas hnot, fun hnot => absurd hhas hnot⟩
    · rw [insert_of_existing hfind]
      exact iff_of_true rfl hhas
    · rw [insert_of_existing hfind]
      exact fun _ => ⟨rfl, rfl, hold⟩
  | none =>
    have hnot := h.not_has_of_find?_eq_none hfind
    refine ⟨?_, fun hhas => absurd hhas hnot, fun _ => ?_, fun _ hfresh => ?_⟩
    · rw [insert_of_new hfind]
      exact iff_of_false Bool.false_ne_true hnot
    · rw [← h.getD_keyCounts_eq_zero_iff, insert_of_new hfind]
      exact ⟨rfl, decide_eq_true_iff⟩
    · exact ⟨fun t => h.mem_toList_insert hfresh hfind, h.remove_insert hfresh hfind⟩

theorem Sound.tellsRemoval (h : r.Sound) (id : SubscriptionId) : r.TellsRemoval id := by
  refine ⟨fun hnone => remove_of_none ?_, fun s hs hid => ?_, fun t => h.mem_toList_remove id⟩
  · cases hget : r.get? id with
    | none => rfl
    | some s =>
      have hid := h.id_eq hget
      exact absurd hid (hnone s (h.mem_toList.mpr (by rw [hid]; exact hget)))
  · have hget : r.get? id = some s := by
      rw [← hid]
      exact h.mem_toList.mp hs
    refine ⟨decide ((r.keyCounts[s.key]?).getD 0 ≤ 1), ?_, ?_⟩
    · rw [remove_of_some hget]
    · rw [decide_eq_true_iff, h.getD_keyCounts_le_one_iff hget]

/-! ## Registries in use -/

/-- However subscriptions came and went: the listings of keys and clients are exact, no
client has a filter twice, entries and removals are answered truthfully, and an entry that
is removed again leaves the registry as it was, but for the queue. -/
theorem tells_of_reachable {separator : Char} {tracking : Bool}
    (h : Reachable separator tracking r) :
    r.Describes ∧ (∀ s, r.TellsEntry s) ∧ ∀ id, r.TellsRemoval id := by
  have hsound := h.sound_readable.1
  exact ⟨hsound.describes, hsound.tellsEntry, hsound.tellsRemoval⟩

/-- A registry whose change of keys was told. -/
def hockeyRegistry : Registry :=
  (Edit.apply (.insert ⟨1, "games", "ann", some hockey, none, none, 0⟩) (empty '.' true)).pop.1

theorem tells_of_reachable_hockey :
    Reachable '.' true hockeyRegistry ∧
      hockeyRegistry.Has ⟨2, "games", "ann", some hockey, none, none, 5⟩ ∧
      (hockeyRegistry.insert ⟨2, "games", "ann", some hockey, none, none, 5⟩).1 = hockeyRegistry ∧
      (hockeyRegistry.remove 1).1.keys = [] := by
  have hreachable : Reachable '.' true hockeyRegistry := by
    refine .pop (.edit .empty ?_ ?_)
    · intro s hs
      cases hs
      rfl
    · intro s hs
      cases hs
      intro t ht
      cases ht
      exact ⟨"sports.hockey", rfl⟩
  have hentry := (tells_of_reachable hreachable).2.1 ⟨2, "games", "ann", some hockey, none, none, 5⟩
  have hhas := hentry.existing.mp rfl
  exact ⟨hreachable, hhas, (hentry.of_has hhas).1, rfl⟩

end Registry

end MessageBroker
