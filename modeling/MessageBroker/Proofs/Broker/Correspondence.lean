/-
# Books and chronicles

What a broker has on record and what handlers were told of it are two accounts of the same
things. They correspond when the sessions on record are the ones that are live by the
chronicle, and when the subscriptions on record are those that were told to have come and not
to have gone.

Strays count as on record here, since nobody was told yet that they have gone. So taking a
subscription out of its registry tells nothing, and striking a stray is what a notice goes
with. Each change of the books that goes with a notice keeps the correspondence with a
chronicle that has that notice in addition.
-/

import Mathlib.Data.List.Perm.Subperm
import MessageBroker.Proofs.Broker.Chronicle

open Std

namespace MessageBroker

/-- What a thinning takes out, it takes out once. -/
theorem Registry.Thins.distinct {r r' : Registry} {removed : List Subscription}
    (h : r.Thins removed r') : (removed.map (·.id)).Nodup := by
  have hnodup : r.ids.Nodup := r.subscriptions.nodup_keys
  have hsub : r.ids ⊆ r'.ids ++ removed.map (·.id) := by
    intro id hid
    rw [List.mem_append]
    by_cases hgone : id ∈ removed.map (·.id)
    · exact .inr hgone
    · have hstays : r'.subscriptions[id]? = r.subscriptions[id]? := (h.get? id).trans (if_neg hgone)
      rw [ids, ExtTreeMap.mem_keys, ExtTreeMap.mem_iff_isSome_getElem?] at hid
      rw [ids, ExtTreeMap.mem_keys, ExtTreeMap.mem_iff_isSome_getElem?, hstays]
      exact .inl hid
  have hlength : (r'.ids ++ removed.map (·.id)).length ≤ r.ids.length := by
    rw [List.length_append, List.length_map, ids, ids, ExtTreeMap.length_keys,
      ExtTreeMap.length_keys]
    exact Nat.le_of_eq h.size
  have hperm := (hnodup.subperm hsub).perm_of_length_le hlength
  exact (List.nodup_append.mp (hperm.nodup_iff.mp hnodup)).2.1

namespace Books

/-- Whether a subscription is in its registry or a stray. -/
def IsOnRecord (k : Books) (strays : Strays) (s : Subscription) : Prop :=
  (∃ id, k.Holds id s) ∨ ∃ id, (id, s) ∈ strays

/-- The books are in order and say the same as a chronicle of which sessions and
subscriptions there are, apart from strays. -/
structure Corresponds (handed : List Subscription) (l : Chronicle) (strays : Strays)
    (k : Books) : Prop where
  accounted : k.Accounted strays
  lawful : l.Lawful handed
  live : ∀ c, c ∈ k.sessions ↔ l.IsLive c
  isOpen : ∀ s, k.IsOnRecord strays s ↔ l.IsOpen s
  numbers : ∀ {s}, .subscribed s ∈ l → s.id < k.next
  distinct : (strays.map (·.2.id)).Nodup

namespace Corresponds

variable {k k' : Books} {handed : List Subscription} {l : Chronicle} {strays strays' : Strays}
  {id : DestinationId} {s : Subscription} {c : ClientId}

/-- The books may change unnoticed as long as nothing comes or goes. -/
theorem change (h : k.Corresponds handed l strays) (haccounted : k'.Accounted strays')
    (hsessions : ∀ c, c ∈ k'.sessions ↔ c ∈ k.sessions)
    (hrecord : ∀ s, k'.IsOnRecord strays' s ↔ k.IsOnRecord strays s) (hnext : k'.next = k.next)
    (hdistinct : (strays'.map (·.2.id)).Nodup) : k'.Corresponds handed l strays' where
  accounted := haccounted
  lawful := h.lawful
  live c := (hsessions c).trans (h.live c)
  isOpen s := (hrecord s).trans (h.isOpen s)
  numbers hs := hnext ▸ h.numbers hs
  distinct := hdistinct

/-- Taking subscriptions out of a registry goes unnoticed. -/
theorem reshelve (h : k.Corresponds handed l strays) (change : Registry → Registry)
    {removed : List Subscription} (hsome : ∃ sh ∈ k.shelves, sh.id = id)
    (hthins : ∀ sh ∈ k.shelves, sh.id = id → sh.registry.Thins removed (change sh.registry)) :
    (k.reshelve id change).Corresponds handed l
      (removed.map (fun s => (id, s)) ++ strays) := by
  have haccounted := h.accounted.reshelve change hsome hthins
  obtain ⟨sh, hsh, hid⟩ := hsome
  have hheld {t : Subscription} (ht : t ∈ removed) : k.Holds id t :=
    ⟨sh, hsh, hid, (hthins sh hsh hid).held t ht⟩
  apply h.change haccounted
  case hsessions => exact fun _ => Iff.rfl
  case hnext => rfl
  case hrecord =>
    intro t
    constructor
    · rintro (⟨j, ht⟩ | ⟨j, ht⟩)
      · exact .inl ⟨j, holds_of_holds_reshelve change hthins ht⟩
      · rcases List.mem_append.mp ht with ht | ht
        · obtain ⟨t', ht', heq⟩ := List.mem_map.mp ht
          cases heq
          exact .inl ⟨id, hheld ht'⟩
        · exact .inr ⟨j, ht⟩
    · rintro (⟨j, ht⟩ | ⟨j, ht⟩)
      · rcases holds_reshelve_or_mem hthins ht with hstays | ⟨rfl, hgone⟩
        · exact .inl ⟨j, hstays⟩
        · exact .inr ⟨j, List.mem_append_left _ (List.mem_map_of_mem hgone)⟩
      · exact .inr ⟨j, List.mem_append_right _ ht⟩
  case hdistinct =>
    rw [List.map_append, List.map_map]
    refine List.nodup_append.mpr ⟨(hthins sh hsh hid).distinct, h.distinct, ?_⟩
    intro i hi i' hi' heq
    obtain ⟨t, ht, rfl⟩ := List.mem_map.mp hi
    obtain ⟨stray, hstray, rfl⟩ := List.mem_map.mp hi'
    exact (h.accounted.stray hstray).2.2 (hheld ht) heq

/-- Whether a destination is started is not told. -/
theorem setStarted (h : k.Corresponds handed l strays) {flag : Bool}
    (hidle : flag = false → ∀ sh ∈ k.shelves, sh.id = id → sh.registry.size = 0) :
    (k.setStarted id flag).Corresponds handed l strays :=
  h.change (h.accounted.setStarted hidle) (fun _ => Iff.rfl)
    (fun _ => or_congr_left (exists_congr fun _ => holds_setStarted)) rfl h.distinct

/-- That a subscription has gone is told when its records are struck. -/
theorem strike (h : k.Corresponds handed l ((id, s) :: strays)) (reason : UnsubscribeReason) :
    (k.strike id s).Corresponds handed (l ++ [.unsubscribed s reason]) strays := by
  have hstray : l.IsOpen s := (h.isOpen s).mp (.inr ⟨id, List.mem_cons_self⟩)
  obtain ⟨hhead, hdistinct⟩ := List.nodup_cons.mp h.distinct
  constructor
  case accounted => exact h.accounted.strike
  case lawful => exact Chronicle.lawful_concat_iff.mpr ⟨h.lawful, hstray⟩
  case live =>
    intro c
    rw [Chronicle.isLive_concat_of_none rfl, ← h.live]
    exact mem_sessions_onListing (k := k)
  case isOpen =>
    intro t
    rw [Chronicle.isOpen_concat_unsubscribed, ← h.isOpen]
    constructor
    · rintro (⟨j, ht⟩ | ⟨j, ht⟩)
      · have hne := (h.accounted.stray List.mem_cons_self).2.2 ht
        exact ⟨fun heq => hne (congrArg Subscription.id heq), .inl ⟨j, ht⟩⟩
      · refine ⟨?_, .inr ⟨j, List.mem_cons_of_mem _ ht⟩⟩
        rintro rfl
        exact hhead (List.mem_map.mpr ⟨_, ht, rfl⟩)
    · rintro ⟨hne, ⟨j, ht⟩ | ⟨j, ht⟩⟩
      · exact .inl ⟨j, ht⟩
      · refine .inr ⟨j, (List.mem_cons.mp ht).resolve_left ?_⟩
        rintro heq
        exact hne (congrArg Prod.snd heq)
  case numbers =>
    intro t ht
    exact h.numbers (by simpa using ht)
  case distinct => exact hdistinct

/-- A session begins, and it is told. -/
theorem openSession (h : k.Corresponds handed l strays) (hc : k.sessions[c]? = none) :
    (k.openSession c).Corresponds handed (l ++ [.sessionCreated c]) strays := by
  have hnot : c ∉ k.sessions := by
    rw [ExtTreeMap.mem_iff_isSome_getElem?, hc]
    exact Bool.false_ne_true
  constructor
  case accounted => exact h.accounted.openSession hc
  case lawful =>
    exact Chronicle.lawful_concat_iff.mpr ⟨h.lawful, fun hlive => hnot ((h.live c).mpr hlive)⟩
  case live =>
    intro c'
    rw [Chronicle.isLive_concat_created, ← h.live, Books.openSession, ExtTreeMap.mem_insert,
      Std.compare_eq_iff_eq]
  case isOpen =>
    intro s
    rw [Chronicle.isOpen_concat_of_none rfl, ← h.isOpen]
    exact Iff.rfl
  case numbers =>
    intro s hs
    exact h.numbers (by simpa using hs)
  case distinct => exact h.distinct

/-- A session ends when all that is left of its client was handed to a caller, and it is
told. -/
theorem closeSession (h : k.Corresponds handed l strays) (hc : c ∈ k.sessions)
    (hnot : ∀ {j t}, k.Holds j t → t.client ≠ c) (hstrays : ∀ stray ∈ strays, stray.2 ∈ handed) :
    (k.closeSession c).Corresponds handed (l ++ [.sessionTerminated c]) strays := by
  constructor
  case accounted => exact h.accounted.closeSession hc hnot
  case lawful =>
    refine Chronicle.lawful_concat_iff.mpr ⟨h.lawful, (h.live c).mp hc, fun s hs hclient => ?_⟩
    rcases (h.isOpen s).mpr hs with ⟨j, hheld⟩ | ⟨j, hstray⟩
    · exact absurd hclient (hnot hheld)
    · exact hstrays _ hstray
  case live =>
    intro c'
    rw [Chronicle.isLive_concat_terminated, ← h.live, Books.closeSession, ExtTreeMap.mem_erase,
      Ne, Std.compare_eq_iff_eq]
  case isOpen =>
    intro s
    rw [Chronicle.isOpen_concat_of_none rfl, ← h.isOpen]
    exact Iff.rfl
  case numbers =>
    intro s hs
    exact h.numbers (by simpa using hs)
  case distinct => exact h.distinct

/-- A client with a session subscribes under the next number, and it is told. -/
theorem enter (h : k.Corresponds handed l strays) {sh₀ : Shelf} (hsh₀ : sh₀ ∈ k.shelves)
    (hid₀ : sh₀.id = id) (hstarted : sh₀.started = true) (hhome : s.destination = id)
    (hnumber : s.id = k.next) (hread : s.ReadWith sh₀.separator)
    (hfind : (sh₀.registry.ofClient s.client).find? s.sameFilter = none)
    (hlive : s.client ∈ k.sessions) :
    ((k.takeNumber.enterRecords id s).reshelve id fun r => (r.insert s).1).Corresponds handed
      (l ++ [.subscribed s]) strays := by
  have hnew {t : Subscription} (ht : .subscribed t ∈ l) : t.id ≠ s.id := by
    rw [hnumber]
    exact Nat.ne_of_lt (h.numbers ht)
  have hrecords := h.accounted.enterRecords_takeNumber ⟨sh₀, hsh₀, hid₀⟩ hnumber
  constructor
  case accounted =>
    exact h.accounted.enter hsh₀ hid₀ hstarted hhome hnumber hread hfind hlive
  case lawful =>
    exact Chronicle.lawful_concat_iff.mpr ⟨h.lawful, (h.live s.client).mp hlive, fun _ => hnew⟩
  case live =>
    intro c
    rw [Chronicle.isLive_concat_of_none rfl, ← h.live]
    exact mem_sessions_onListing (k := k.takeNumber)
  case isOpen =>
    intro t
    rw [Chronicle.isOpen_concat_subscribed fun reason hgone =>
      hnew (h.lawful.subscribed_of_unsubscribed hgone) rfl, ← h.isOpen, IsOnRecord, IsOnRecord,
      ← or_assoc]
    refine or_congr_left ?_
    have hholds (j : DestinationId) := hrecords.holds_insert_iff (j := j) (t := t) hsh₀ hid₀
      (h.accounted.get?_next hnumber hsh₀) hfind
    rw [exists_congr hholds]
    constructor
    · rintro ⟨j, ⟨-, ht⟩ | ht⟩
      · exact .inl ht
      · exact .inr ⟨j, ht⟩
    · rintro (ht | ⟨j, ht⟩)
      · exact ⟨id, .inl ⟨rfl, ht⟩⟩
      · exact ⟨j, .inr ht⟩
  case numbers =>
    intro t ht
    show t.id < k.next + 1
    rcases List.mem_append.mp ht with ht | ht
    · exact Nat.lt_succ_of_lt (h.numbers ht)
    · obtain rfl := Notice.subscribed.inj (List.mem_singleton.mp ht)
      rw [hnumber]
      exact Nat.lt_succ_self _
  case distinct => exact h.distinct

/-- Numbers may be skipped. -/
theorem takeNumber (h : k.Corresponds handed l strays) :
    k.takeNumber.Corresponds handed l strays :=
  { h with
    accounted := h.accounted.takeNumber
    numbers := fun hs => Nat.lt_succ_of_lt (h.numbers hs) }

end Corresponds

end Books

end MessageBroker
