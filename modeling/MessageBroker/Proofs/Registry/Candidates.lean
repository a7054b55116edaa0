/-
# Candidates

The indexed search for the candidates of a message finds what a plain scan of all
subscriptions finds with the matcher, in the order of their numbers. This rests on the
indexes being divided by kind of subtopic, and on the comparison of texts being matching
where the subtopic is plain. A pattern that is sent in place of a subtopic makes no
difference: it is no text of a plain subtopic, and patterns are compared by segments.

The statement is about all registries that edits and the telling of queued changes lead to
from the empty one, for entries with new numbers whose subtopics were read with the separator
of the registry.
-/

import MessageBroker.Error
import MessageBroker.Proofs.Registry.Thinning

open Std

namespace MessageBroker

namespace Subscription

theorem plainText?_eq_some_iff {s : Subscription} {text : String} :
    s.plainText? = some text ↔
      ∃ p, s.subtopic = some p ∧ p.hasWildcard = false ∧ p.value = text := by
  simp [plainText?, Option.filter_eq_some_iff, and_assoc]

theorem patternText?_eq_some_iff {s : Subscription} {text : String} :
    s.patternText? = some text ↔
      ∃ p, s.subtopic = some p ∧ p.hasWildcard = true ∧ p.value = text := by
  simp [patternText?, Option.filter_eq_some_iff, and_assoc]

/-- Whether the subtopic filter of a subscription admits one of some subtopics. -/
def admitsAny (s : Subscription) (ts : List Subtopic) : Bool :=
  match s.subtopic with
  | none => true
  | some p => ts.any fun t => t.matches p matches .ok true

theorem admitsAny_iff {s : Subscription} {ts : List Subtopic} :
    s.admitsAny ts = true ↔
      s.subtopic = none ∨ ∃ p, s.subtopic = some p ∧ ∃ t ∈ ts, t.matches p = .ok true := by
  cases h : s.subtopic with
  | none => simp [admitsAny, h]
  | some p =>
    simp only [admitsAny, h, List.any_eq_true, reduceCtorEq, false_or, Option.some.injEq,
      exists_eq_left']
    refine exists_congr fun t => and_congr_right fun _ => ?_
    split <;> simp_all

end Subscription

/-- Subtopics that were read with one separator are compared. -/
theorem Subtopic.ParsedWith.matches_eq {separator : Char} {t p : Subtopic}
    (ht : t.ParsedWith separator) (hp : p.ParsedWith separator) :
    t.matches p = .ok (t.matchedBy p) := by
  rw [Subtopic.matches, if_pos (ht.separator_eq.trans hp.separator_eq.symm)]

namespace Registry

/-- What a set holds after the elements of a list have each added something to it. -/
theorem mem_foldl_ids {α : Type} {add : IdSet → α → IdSet} {adds : α → SubscriptionId → Prop}
    (hadd : ∀ ids a i, i ∈ add ids a ↔ i ∈ ids ∨ adds a i) (l : List α) (ids : IdSet)
    (i : SubscriptionId) : i ∈ l.foldl add ids ↔ i ∈ ids ∨ ∃ a ∈ l, adds a i := by
  induction l generalizing ids with
  | nil => simp
  | cons a l ih =>
    rw [List.foldl_cons, ih, hadd]
    simp [or_assoc]

variable {r : Registry}

/-- The patterns that admit a subtopic lead to the subscriptions that have them. -/
theorem exists_pattern_iff (h : r.Sound) (hr : r.Readable) {t : Subtopic} {id : SubscriptionId} :
    (∃ (text : String) (entry : PatternEntry), r.patterns[text]? = some entry ∧
        t.matchedBy entry.pattern = true ∧ id ∈ entry.ids) ↔
      ∃ s p, r.get? id = some s ∧ s.subtopic = some p ∧ p.hasWildcard = true ∧
        t.matchedBy p = true := by
  have hunder {text : String} {entry : PatternEntry} (hentry : r.patterns[text]? = some entry) :
      r.patternIds.under text = entry.ids := by
    rw [IdIndex.under, patternIds, ExtTreeMap.getElem?_map, hentry]
    rfl
  have hsame {text : String} {entry : PatternEntry} (hentry : r.patterns[text]? = some entry)
      {s : Subscription} {p : Subtopic} (hget : r.get? id = some s) (hsub : s.subtopic = some p)
      (hvalue : p.value = text) : entry.pattern = p := by
    obtain ⟨hread, htext⟩ := hr.patterns hentry
    exact hread.eq_of_value_eq (hr.subtopics hget p hsub) (htext.trans hvalue.symm)
  constructor
  · rintro ⟨text, entry, hentry, hmatch, hid⟩
    rw [← hunder hentry] at hid
    obtain ⟨s, hget, htext⟩ := (h.subtopics.patterns.mem_under text id).mp hid
    obtain ⟨p, hsub, hwild, hvalue⟩ := Subscription.patternText?_eq_some_iff.mp htext
    rw [hsame hentry hget hsub hvalue] at hmatch
    exact ⟨s, p, hget, hsub, hwild, hmatch⟩
  · rintro ⟨s, p, hget, hsub, hwild, hmatch⟩
    have htext := Subscription.patternText?_eq_some_iff.mpr ⟨p, hsub, hwild, rfl⟩
    have hid : id ∈ r.patternIds.under p.value :=
      (h.subtopics.patterns.mem_under p.value id).mpr ⟨s, hget, htext⟩
    cases hentry : r.patterns[p.value]? with
    | none => simp [IdIndex.under, patternIds, ExtTreeMap.getElem?_map, hentry] at hid
    | some entry =>
      rw [hunder hentry] at hid
      rw [← hsame hentry hget hsub rfl] at hmatch
      exact ⟨p.value, entry, hentry, hmatch, hid⟩

/-- The indexes of subtopics find the subscriptions whose subtopic admits a subtopic. -/
theorem mem_admitting (h : r.Sound) (hr : r.Readable) {t : Subtopic}
    (ht : t.ParsedWith r.separator) {id : SubscriptionId} :
    id ∈ r.admitting t ↔
      ∃ s p, r.get? id = some s ∧ s.subtopic = some p ∧ t.matches p = .ok true := by
  have hentries : id ∈ r.admitting t ↔ id ∈ r.plain.under t.value ∨
      ∃ (text : String) (entry : PatternEntry), r.patterns[text]? = some entry ∧
        t.matchedBy entry.pattern = true ∧ id ∈ entry.ids := by
    have hadd (ids : IdSet) (a : String × PatternEntry) (i : SubscriptionId) :
        i ∈ (if t.matchedBy a.2.pattern then ids ∪ a.2.ids else ids) ↔
          i ∈ ids ∨ t.matchedBy a.2.pattern = true ∧ i ∈ a.2.ids := by
      cases t.matchedBy a.2.pattern <;> simp [ExtTreeSet.mem_union_iff]
    rw [admitting, ExtTreeMap.foldl_eq_foldl_toList, mem_foldl_ids hadd]
    simp [ExtTreeMap.mem_toList_iff_getElem?_eq_some]
  rw [hentries, exists_pattern_iff h hr, h.subtopics.plain.mem_under]
  constructor
  · intro hfound
    rcases hfound with hplain | hpattern
    · obtain ⟨s, hget, htext⟩ := hplain
      obtain ⟨p, hsub, hwild, hvalue⟩ := Subscription.plainText?_eq_some_iff.mp htext
      have hp := hr.subtopics hget p hsub
      refine ⟨s, p, hget, hsub, ?_⟩
      rw [ht.matches_eq hp, (ht.matchedBy_iff_value_eq hp hwild).mpr hvalue.symm]
    · obtain ⟨s, p, hget, hsub, -, hmatch⟩ := hpattern
      refine ⟨s, p, hget, hsub, ?_⟩
      rw [ht.matches_eq (hr.subtopics hget p hsub), hmatch]
  · rintro ⟨s, p, hget, hsub, hmatch⟩
    have hp := hr.subtopics hget p hsub
    rw [ht.matches_eq hp] at hmatch
    have hadmits : t.matchedBy p = true := Except.ok.inj hmatch
    cases hwild : p.hasWildcard with
    | false =>
      have hvalue := (ht.matchedBy_iff_value_eq hp hwild).mp hadmits
      exact .inl ⟨s, hget, Subscription.plainText?_eq_some_iff.mpr ⟨p, hsub, hwild, hvalue.symm⟩⟩
    | true => exact .inr ⟨s, p, hget, hsub, hwild, hadmits⟩

theorem parsedWith_of_mem_subtopicsOrEmpty {separator : Char} {ts : List Subtopic}
    (hts : ∀ t ∈ ts, t.ParsedWith separator) :
    ∀ t ∈ subtopicsOrEmpty separator ts, t.ParsedWith separator := by
  intro t ht
  unfold subtopicsOrEmpty at ht
  split at ht
  · rw [List.mem_singleton.mp ht]
    exact Subtopic.parsedWith_empty separator
  · exact hts t ht

theorem mem_candidates (h : r.Sound) (hr : r.Readable) {ts : List Subtopic}
    (hts : ∀ t ∈ ts, t.ParsedWith r.separator) {s : Subscription} :
    s ∈ r.candidates ts ↔
      r.get? s.id = some s ∧ s.admitsAny (subtopicsOrEmpty r.separator ts) = true := by
  have hread := parsedWith_of_mem_subtopicsOrEmpty hts
  have hid (id : SubscriptionId) :
      id ∈ (subtopicsOrEmpty r.separator ts).foldl (fun ids t => ids ∪ r.admitting t)
          r.unfiltered ↔
        ∃ u, r.get? id = some u ∧ u.admitsAny (subtopicsOrEmpty r.separator ts) = true := by
    have hadd (ids : IdSet) (t : Subtopic) (i : SubscriptionId) :
        i ∈ ids ∪ r.admitting t ↔ i ∈ ids ∨ i ∈ r.admitting t := ExtTreeSet.mem_union_iff
    rw [mem_foldl_ids hadd, h.subtopics.mem_unfiltered]
    constructor
    · rintro (⟨u, hget, hnone⟩ | ⟨t, ht, hfound⟩)
      · exact ⟨u, hget, Subscription.admitsAny_iff.mpr (.inl hnone)⟩
      · obtain ⟨u, p, hget, hsub, hmatch⟩ := (mem_admitting h hr (hread t ht)).mp hfound
        exact ⟨u, hget, Subscription.admitsAny_iff.mpr (.inr ⟨p, hsub, t, ht, hmatch⟩)⟩
    · rintro ⟨u, hget, hadmits⟩
      rcases Subscription.admitsAny_iff.mp hadmits with hnone | hpattern
      · exact .inl ⟨u, hget, hnone⟩
      · obtain ⟨p, hsub, t, ht, hmatch⟩ := hpattern
        exact .inr ⟨t, ht, (mem_admitting h hr (hread t ht)).mpr ⟨u, p, hget, hsub, hmatch⟩⟩
  rw [candidates, List.mem_filterMap]
  simp only [ExtTreeSet.mem_toList, hid]
  constructor
  · rintro ⟨id, ⟨u, hget, hadmits⟩, hs⟩
    have hsame : u = s := Option.some.inj (hget.symm.trans hs)
    rw [h.id_eq hs]
    exact ⟨hs, hsame ▸ hadmits⟩
  · rintro ⟨hget, hadmits⟩
    exact ⟨s.id, ⟨s, hget, hadmits⟩, hget⟩

theorem pairwise_candidates (h : r.Sound) (ts : List Subtopic) :
    (r.candidates ts).Pairwise fun s t => s.id < t.id := by
  rw [candidates, List.pairwise_filterMap]
  refine ExtTreeSet.ordered_toList.imp ?_
  intro i j hlt s hs t ht
  rw [h.id_eq hs, h.id_eq ht]
  exact Nat.compare_eq_lt.mp hlt

theorem pairwise_toList (h : r.Sound) : r.toList.Pairwise fun s t => s.id < t.id := by
  refine (Maps.pairwise_values fun id s hs => h.id_eq hs).imp ?_
  intro s t hlt
  exact Nat.compare_eq_lt.mp hlt

/-- The indexed search is the plain scan with the matcher. -/
theorem candidates_eq_filter (h : r.Sound) (hr : r.Readable) {ts : List Subtopic}
    (hts : ∀ t ∈ ts, t.ParsedWith r.separator) :
    r.candidates ts = r.toList.filter (·.admitsAny (subtopicsOrEmpty r.separator ts)) := by
  have hfound := pairwise_candidates h ts
  have hscanned := (pairwise_toList h).filter (·.admitsAny (subtopicsOrEmpty r.separator ts))
  have hperm : (r.candidates ts).Perm
      (r.toList.filter (·.admitsAny (subtopicsOrEmpty r.separator ts))) := by
    rw [List.perm_ext_iff_of_nodup (hfound.imp fun hlt => by rintro rfl; exact Nat.lt_irrefl _ hlt)
      (hscanned.imp fun hlt => by rintro rfl; exact Nat.lt_irrefl _ hlt)]
    intro s
    rw [mem_candidates h hr hts, List.mem_filter, h.mem_toList]
  exact hperm.eq_of_pairwise (fun s t _ _ hst hts => absurd hst (Nat.lt_asymm hts)) hfound hscanned

/-! ## Reachable registries -/

/-- The registries that edits lead to from the empty one, when queued changes are told in
between. Each entry has a number that is not in use and a subtopic that was read with the
separator. -/
inductive Reachable (separator : Char) (tracking : Bool) : Registry → Prop
  | empty : Reachable separator tracking (empty separator tracking)
  | edit {r : Registry} {e : Edit} (h : Reachable separator tracking r) (hfresh : e.Fresh r)
      (hread : e.ReadWith separator) : Reachable separator tracking (e.apply r)
  | pop {r : Registry} (h : Reachable separator tracking r) :
      Reachable separator tracking r.pop.1

theorem Reachable.sound_readable {separator : Char} {tracking : Bool}
    (h : Reachable separator tracking r) : r.Sound ∧ r.Readable ∧ r.separator = separator := by
  induction h with
  | empty => exact ⟨sound_empty separator tracking, readable_empty separator tracking, rfl⟩
  | edit h hfresh hread ih =>
    obtain ⟨hsound, hreadable, hsep⟩ := ih
    refine ⟨hsound.apply hfresh, hreadable.apply hsound ?_, ?_⟩
    · rw [hsep]
      exact hread
    · rw [Edit.separator_apply hsound, hsep]
  | pop h ih =>
    obtain ⟨hsound, hreadable, hsep⟩ := ih
    have hthins := hsound.thins_pop
    exact ⟨hthins.sound, hthins.readable hreadable, hthins.separator.trans hsep⟩

/-- However subscriptions came and went, the candidates of a message are exactly those that
a plain scan with the matcher finds, in strictly ascending order of their numbers. -/
theorem candidates_of_reachable {separator : Char} {tracking : Bool}
    (h : Reachable separator tracking r) {ts : List Subtopic}
    (hts : ∀ t ∈ ts, t.ParsedWith separator) :
    (r.candidates ts).Pairwise (fun s t => s.id < t.id) ∧
      (∀ s, s ∈ r.candidates ts ↔ r.get? s.id = some s ∧
        (s.subtopic = none ∨ ∃ p, s.subtopic = some p ∧
          ∃ t ∈ subtopicsOrEmpty separator ts, t.matches p = .ok true)) ∧
      r.candidates ts = r.toList.filter (·.admitsAny (subtopicsOrEmpty separator ts)) := by
  obtain ⟨hsound, hreadable, rfl⟩ := h.sound_readable
  refine ⟨pairwise_candidates hsound ts, fun s => ?_, candidates_eq_filter hsound hreadable hts⟩
  rw [mem_candidates hsound hreadable hts, Subscription.admitsAny_iff]

/-- A subtopic that messages are sent to. -/
def hockey : Subtopic := ⟨"sports.hockey", '.', [.literal "sports", .literal "hockey"]⟩

/-- A pattern that admits it. -/
def sports : Subtopic := ⟨"sports.*", '.', [.literal "sports", .any]⟩

/-- A registry that lost the first of its three subscriptions. -/
def sportsRegistry : Registry :=
  Edit.apply (.remove 1)
    (Edit.apply (.insert ⟨3, "games", "ann", some sports, none, none, 0⟩)
      (Edit.apply (.insert ⟨2, "games", "bob", some hockey, none, none, 0⟩)
        (Edit.apply (.insert ⟨1, "games", "ann", none, none, none, 0⟩) (empty '.' true))))

theorem candidates_of_reachable_sports :
    (∀ t ∈ [hockey], t.ParsedWith '.') ∧ Reachable '.' true sportsRegistry ∧
      sportsRegistry.candidates [hockey] =
        sportsRegistry.toList.filter (·.admitsAny (subtopicsOrEmpty '.' [hockey])) ∧
      (sportsRegistry.candidates [hockey]).map (·.id) = [2, 3] := by
  have hhockey : hockey.ParsedWith '.' := ⟨"sports.hockey", rfl⟩
  have hsports : sports.ParsedWith '.' := ⟨"sports.*", rfl⟩
  have hts : ∀ t ∈ [hockey], t.ParsedWith '.' := by simpa using hhockey
  have hreach : Reachable '.' true sportsRegistry := by
    refine .edit (.edit (.edit (.edit .empty ?_ ?_) ?_ ?_) ?_ ?_) ?_ ?_
    · intro s hs
      cases hs
      rfl
    · intro s hs
      cases hs
      intro t ht
      cases ht
    · intro s hs
      cases hs
      rfl
    · intro s hs
      cases hs
      intro t ht
      cases ht
      exact hhockey
    · intro s hs
      cases hs
      rfl
    · intro s hs
      cases hs
      intro t ht
      cases ht
      exact hsports
    · intro s hs
      cases hs
    · intro s hs
      cases hs
  exact ⟨hts, hreach, (candidates_of_reachable hreach hts).2.2, rfl⟩

end Registry

end MessageBroker
