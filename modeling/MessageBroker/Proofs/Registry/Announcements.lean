/-
# Announcing keys to another node

A tracking registry queues a change whenever a first subscription with a key appears or the
last one goes. Another node is told of these changes one by one, in their order, and now
and then it receives all keys of the moment, while older changes are still queued.

Two things hold at every moment. In the stream of all changes, told or still queued, those
of one key alternate, beginning with an appearance, and their number is odd exactly when
the key is registered. And a key without queued changes is held by the other node exactly
when it is registered. So the last queued change of a key says what is registered, and
with an empty queue the node is up to date.

Clearing a registry queues nothing, so the node keeps keys that are gone. What remains is
that it lacks none: a registered key is held or its last queued change is an appearance.
-/

import MessageBroker.Proofs.Registry.Thinning
import MessageBroker.Proofs.RemoteKeys

open Std

namespace MessageBroker

/-- The kinds of the changes of one key, in their order. -/
def KeyChange.kindsOf (key : SubscriptionKey) (changes : List KeyChange) : List ChangeKind :=
  (changes.filter (·.key = key)).map (·.kind)

namespace KeyChange

theorem kindsOf_append (key : SubscriptionKey) (changes more : List KeyChange) :
    kindsOf key (changes ++ more) = kindsOf key changes ++ kindsOf key more := by
  rw [kindsOf, List.filter_append, List.map_append]
  rfl

theorem kindsOf_cons (key : SubscriptionKey) (change : KeyChange) (rest : List KeyChange) :
    kindsOf key (change :: rest) =
      if change.key = key then change.kind :: kindsOf key rest else kindsOf key rest := by
  by_cases h : change.key = key <;> simp [kindsOf, h]

theorem kindsOf_singleton (key : SubscriptionKey) (change : KeyChange) :
    kindsOf key [change] = if change.key = key then [change.kind] else [] := by
  by_cases h : change.key = key <;> simp [kindsOf, h]

end KeyChange

open KeyChange (kindsOf)

namespace Registry

variable {r r' : Registry}

/-- What one entry or removal does to the keys of a tracking registry: all stay, or one
appears that was not there or vanishes that was, and this is queued. -/
inductive KeyStep (r r' : Registry) : Prop
  | same (hpending : r'.pending = r.pending) (hkeys : ∀ k, k ∈ r'.keys ↔ k ∈ r.keys)
  | queued (change : KeyChange) (hturn : change.kind = .added ↔ change.key ∉ r.keys)
      (hpending : r'.pending = r.pending ++ [change])
      (hkeys : ∀ k, k ∈ r'.keys ↔ if k = change.key then change.kind = .added else k ∈ r.keys)

/-- A sound registry that tracks its changes. -/
structure Tracks (r : Registry) : Prop where
  sound : r.Sound
  tracking : r.tracking = true

theorem Tracks.keyStep_insert (h : r.Tracks) (s : Subscription) :
    KeyStep r (r.insert s).1 := by
  cases hfind : (r.ofClient s.client).find? s.sameFilter with
  | some old =>
    rw [insert_of_existing hfind]
    exact .same rfl fun k => Iff.rfl
  | none =>
    rw [insert_of_new hfind]
    have hkeys (n : Nat) (k : SubscriptionKey) :
        k ∈ (r.keyCounts.insert s.key n).keys ↔ k = s.key ∨ k ∈ r.keys := by
      rw [ExtTreeMap.mem_keys, ExtTreeMap.mem_insert, Std.compare_eq_iff_eq, keys,
        ExtTreeMap.mem_keys, eq_comm]
    by_cases hfirst : (r.keyCounts[s.key]?).getD 0 = 0
    · have hnew : s.key ∉ r.keys := (h.sound.getD_keyCounts_eq_zero s.key).mp hfirst
      refine .queued ⟨s.key, .added⟩ (iff_of_true rfl hnew) ?_ fun k => (hkeys _ k).trans ?_
      · simp only [h.tracking, hfirst, and_self, if_true]
      · by_cases hk : k = s.key <;> simp [hk]
    · refine .same ?_ fun k => ?_
      · simp only [hfirst, and_false, if_false]
      · have hold : s.key ∈ r.keys := by
          rw [h.sound.getD_keyCounts_eq_zero, Decidable.not_not] at hfirst
          exact hfirst
        refine (hkeys _ k).trans (or_iff_right_of_imp ?_)
        rintro rfl
        exact hold

theorem Tracks.keyStep_remove (h : r.Tracks) (id : SubscriptionId) :
    KeyStep r (r.remove id).1 := by
  cases hget : r.get? id with
  | none =>
    rw [remove_of_none hget]
    exact .same rfl fun k => Iff.rfl
  | some s =>
    rw [remove_of_some hget]
    have hold : s.key ∈ r.keys := by
      rw [h.sound.mem_keys]
      refine List.mem_map_of_mem (h.sound.mem_toList.mpr ?_)
      rw [h.sound.id_eq hget]
      exact hget
    by_cases hlast : (r.keyCounts[s.key]?).getD 0 ≤ 1
    · refine .queued ⟨s.key, .removed⟩ (iff_of_false nofun (not_not_intro hold)) ?_ fun k => ?_
      · simp only [h.tracking, hlast, and_self, if_true]
      · simp only [keys, hlast, if_true]
        rw [ExtTreeMap.mem_keys, ExtTreeMap.mem_erase, ne_eq, Std.compare_eq_iff_eq,
          ExtTreeMap.mem_keys]
        by_cases hk : k = s.key
        · simp [hk]
        · simp [hk, Ne.symm hk]
    · refine .same ?_ fun k => ?_
      · simp only [hlast, and_false, if_false]
      · simp only [keys, hlast, if_false]
        rw [ExtTreeMap.mem_keys, ExtTreeMap.mem_insert, Std.compare_eq_iff_eq, ExtTreeMap.mem_keys]
        refine or_iff_right_of_imp ?_
        rintro rfl
        exact ExtTreeMap.mem_keys.mp hold

theorem Tracks.remove (h : r.Tracks) (id : SubscriptionId) : (r.remove id).1.Tracks := by
  have hthins := h.sound.thins_remove id
  exact ⟨hthins.sound, hthins.tracking.trans h.tracking⟩

/-- What a step on the keys of a registry preserves, the removal of several subscriptions
preserves. -/
theorem Tracks.removeAll_induction {P : Registry → Prop}
    (hstep : ∀ {r r' : Registry}, KeyStep r r' → P r → P r') (ids : List SubscriptionId)
    {r : Registry} (h : r.Tracks) (hr : P r) : P (removeAll ids r).1 := by
  induction ids generalizing r with
  | nil => exact hr
  | cons id ids ih =>
    rw [removeAll]
    exact ih (h.remove id) (hstep (h.keyStep_remove id) hr)

/-- What a step on the keys of a registry preserves, every edit but clearing preserves. -/
theorem Tracks.edit_induction {P : Registry → Prop}
    (hstep : ∀ {r r' : Registry}, KeyStep r r' → P r → P r') (h : r.Tracks) (hr : P r)
    {e : Edit} (hclear : e ≠ .clear) : P (e.apply r) := by
  cases e with
  | insert s => exact hstep (h.keyStep_insert s) hr
  | remove id => exact hstep (h.keyStep_remove id) hr
  | removeClient c => exact removeAll_induction hstep _ h hr
  | clear => exact absurd rfl hclear

theorem Tracks.apply (h : r.Tracks) {e : Edit} (hfresh : e.Fresh r) : (e.apply r).Tracks :=
  ⟨h.sound.apply hfresh, (Edit.tracking_apply h.sound).trans h.tracking⟩

theorem Tracks.pop (h : r.Tracks) : r.pop.1.Tracks :=
  ⟨h.sound.thins_pop.sound, h.sound.thins_pop.tracking.trans h.tracking⟩

theorem pop_of_some {change : KeyChange} (h : r.pop.2 = some change) :
    ∃ rest, r.pending = change :: rest ∧ r.pop.1 = { r with pending := rest } := by
  unfold Registry.pop at h ⊢
  cases hpending : r.pending with
  | nil =>
    rw [hpending] at h
    cases h
  | cons first rest =>
    rw [hpending] at h
    cases h
    exact ⟨rest, rfl, rfl⟩

end Registry

/-- A registry, what another node holds for it among other things, and the changes that the
node was told of, oldest first. -/
structure Announced where
  registry : Registry
  remote : RemoteKeys
  told : List KeyChange

namespace Announced

/-- All changes that were ever queued, oldest first. -/
def stream (a : Announced) : List KeyChange := a.told ++ a.registry.pending

/-- The states that are reached when subscriptions come and go, one node is told of the
queued changes, and the node receives all keys. The flag says whether the registry may be
cleared on the way. -/
inductive Reachable (node : PeerId) (clears : Bool) : Announced → Prop
  | start (separator : Char) (remote : RemoteKeys) (h : remote.keys node = ∅) :
      Reachable node clears ⟨Registry.empty separator true, remote, []⟩
  | edit {a : Announced} (h : Reachable node clears a) (e : Registry.Edit)
      (hclear : e = .clear → clears = true) (hfresh : e.Fresh a.registry) :
      Reachable node clears { a with registry := e.apply a.registry }
  | tell {a : Announced} (h : Reachable node clears a) {change : KeyChange}
      (hnext : a.registry.pop.2 = some change) :
      Reachable node clears
        ⟨a.registry.pop.1, a.remote.receive node change, a.told ++ [change]⟩
  | resync {a : Announced} (h : Reachable node clears a) :
      Reachable node clears
        { a with remote := a.remote.replace node a.registry.keys }

/-- The stream of changes and the keys of the node are in step with the registry. -/
structure InStep (node : PeerId) (a : Announced) : Prop where
  alternates : ∀ (key : SubscriptionKey) (i : Nat) (kind : ChangeKind),
    (kindsOf key a.stream)[i]? = some kind → (kind = .added ↔ i % 2 = 0)
  parity : ∀ key : SubscriptionKey,
    key ∈ a.registry.keys ↔ (kindsOf key a.stream).length % 2 = 1
  settled : ∀ key : SubscriptionKey, kindsOf key a.registry.pending = [] →
    (key ∈ a.remote.keys node ↔ key ∈ a.registry.keys)

/-- The node lacks no registered key that it will not be told of. -/
def Covers (node : PeerId) (a : Announced) : Prop :=
  ∀ key ∈ a.registry.keys,
    (kindsOf key a.registry.pending).getLast? = some .added ∨
      (kindsOf key a.registry.pending = [] ∧ key ∈ a.remote.keys node)

theorem Covers.of_keyStep {node : PeerId} {a : Announced} {r' : Registry} (h : Covers node a)
    (hstep : Registry.KeyStep a.registry r') : Covers node { a with registry := r' } := by
  intro key hkey
  cases hstep with
  | same hpending hkeys =>
    simp only [hpending]
    exact h key ((hkeys key).mp hkey)
  | queued change hturn hpending hkeys =>
    have hkey := (hkeys key).mp hkey
    simp only [hpending, KeyChange.kindsOf_append, KeyChange.kindsOf_singleton]
    by_cases hsame : change.key = key
    · rw [if_pos hsame.symm] at hkey
      rw [if_pos hsame, hkey, List.getLast?_concat]
      exact .inl rfl
    · rw [if_neg (Ne.symm hsame)] at hkey
      rw [if_neg hsame, List.append_nil]
      exact h key hkey

theorem Covers.tell {node : PeerId} {a : Announced} (h : Covers node a) {change : KeyChange}
    (hnext : a.registry.pop.2 = some change) :
    Covers node ⟨a.registry.pop.1, a.remote.receive node change, a.told ++ [change]⟩ := by
  obtain ⟨rest, hpending, hpop⟩ := Registry.pop_of_some hnext
  rw [hpop]
  intro key hkey
  have hcovered := h key hkey
  rw [hpending, KeyChange.kindsOf_cons] at hcovered
  simp only [RemoteKeys.mem_keys_receive]
  by_cases hsame : change.key = key
  · rw [if_pos hsame] at hcovered
    rw [if_pos hsame.symm]
    have hlast := hcovered.resolve_right fun hnone => List.cons_ne_nil _ _ hnone.1
    cases hrest : kindsOf key rest with
    | nil =>
      rw [hrest] at hlast
      exact .inr ⟨rfl, Option.some.inj hlast⟩
    | cons kind kinds =>
      rw [hrest, List.getLast?_cons_cons] at hlast
      exact .inl hlast
  · rw [if_neg hsame] at hcovered
    rw [if_neg (Ne.symm hsame)]
    exact hcovered

/-- In a reachable state the registry is sound, and the node lacks no key for good. -/
theorem Reachable.tracks_covers {node : PeerId} {clears : Bool} {a : Announced}
    (h : Reachable node clears a) : a.registry.Tracks ∧ Covers node a := by
  induction h with
  | start separator remote hnone =>
    refine ⟨⟨Registry.sound_empty separator true, rfl⟩, ?_⟩
    intro key hkey
    simp [Registry.keys, Registry.empty] at hkey
  | edit h e hclear hfresh ih =>
    obtain ⟨htracks, hcovers⟩ := ih
    refine ⟨htracks.apply hfresh, ?_⟩
    by_cases he : e = .clear
    · subst he
      intro key hkey
      simp [Registry.Edit.apply, Registry.clear, Registry.keys, Registry.empty] at hkey
    · exact htracks.edit_induction
        (P := fun r => Covers node { registry := r, remote := _, told := _ })
        (fun hstep h => h.of_keyStep hstep) hcovers he
  | tell h hnext ih => exact ⟨ih.1.pop, ih.2.tell hnext⟩
  | resync h ih =>
    refine ⟨ih.1, ?_⟩
    intro key hkey
    rcases ih.2 key hkey with hlast | hsettled
    · exact .inl hlast
    · exact .inr ⟨hsettled.1, RemoteKeys.mem_keys_replace.mpr hkey⟩

theorem InStep.of_keyStep {node : PeerId} {a : Announced} {r' : Registry} (h : InStep node a)
    (hstep : Registry.KeyStep a.registry r') : InStep node { a with registry := r' } := by
  cases hstep with
  | same hpending hkeys =>
    refine ⟨fun key => ?_, fun key => ?_, fun key => ?_⟩ <;> simp only [stream, hpending, hkeys]
    · exact h.alternates key
    · exact h.parity key
    · exact h.settled key
  | queued change hturn hpending hkeys =>
    have hstream (key : SubscriptionKey) :
        kindsOf key ({ a with registry := r' } : Announced).stream =
          kindsOf key a.stream ++ if change.key = key then [change.kind] else [] := by
      rw [← KeyChange.kindsOf_singleton, ← KeyChange.kindsOf_append, stream, stream, hpending,
        List.append_assoc]
    refine ⟨fun key i kind hkind => ?_, fun key => ?_, fun key hnone => ?_⟩
    · rw [hstream] at hkind
      by_cases hsame : change.key = key
      · rw [if_pos hsame, List.getElem?_append] at hkind
        split at hkind
        next => exact h.alternates key i kind hkind
        next hlong =>
          obtain ⟨hi, hkind⟩ := List.getElem?_eq_some_iff.mp hkind
          rw [List.length_singleton] at hi
          rw [List.getElem_singleton] at hkind
          have hodd := h.parity key
          rw [← hkind, hturn, hsame, hodd]
          omega
      · rw [if_neg hsame, List.append_nil] at hkind
        exact h.alternates key i kind hkind
    · rw [hstream, hkeys]
      by_cases hsame : change.key = key
      · have hodd := h.parity key
        rw [if_pos hsame, if_pos hsame.symm, hturn, hsame, hodd, List.length_append,
          List.length_singleton]
        omega
      · rw [if_neg hsame, if_neg (Ne.symm hsame), List.append_nil]
        exact h.parity key
    · rw [hpending, KeyChange.kindsOf_append, List.append_eq_nil_iff,
        KeyChange.kindsOf_singleton] at hnone
      have hother : change.key ≠ key := by
        intro hsame
        rw [if_pos hsame] at hnone
        exact List.cons_ne_nil _ _ hnone.2
      rw [hkeys, if_neg (Ne.symm hother)]
      exact h.settled key hnone.1

theorem InStep.tell {node : PeerId} {a : Announced} (h : InStep node a) {change : KeyChange}
    (hnext : a.registry.pop.2 = some change) :
    InStep node ⟨a.registry.pop.1, a.remote.receive node change, a.told ++ [change]⟩ := by
  obtain ⟨rest, hpending, hpop⟩ := Registry.pop_of_some hnext
  rw [hpop]
  have hstream : (⟨{ a.registry with pending := rest }, a.remote.receive node change,
      a.told ++ [change]⟩ : Announced).stream = a.stream := by
    rw [stream, stream, hpending, List.append_assoc, List.singleton_append]
  refine ⟨fun key => ?_, fun key => ?_, fun key hnone => ?_⟩
  · rw [hstream]
    exact h.alternates key
  · rw [hstream]
    exact h.parity key
  · rw [RemoteKeys.mem_keys_receive]
    by_cases hsame : change.key = key
    · have hkinds : kindsOf key a.stream = kindsOf key a.told ++ [change.kind] := by
        rw [stream, hpending, KeyChange.kindsOf_append, KeyChange.kindsOf_cons, if_pos hsame, hnone]
      have hlast := h.alternates key (kindsOf key a.told).length change.kind (by simp [hkinds])
      have hodd := h.parity key
      rw [hkinds, List.length_append, List.length_singleton] at hodd
      rw [if_pos hsame.symm, hlast]
      refine Iff.trans ?_ hodd.symm
      omega
    · rw [if_neg (Ne.symm hsame)]
      refine h.settled key ?_
      rw [hpending, KeyChange.kindsOf_cons, if_neg hsame]
      exact hnone

/-- In a state that was reached without clearing, the node is in step. -/
theorem Reachable.inStep {node : PeerId} {a : Announced} (h : Reachable node false a) :
    InStep node a := by
  induction h with
  | start separator remote hnone =>
    refine ⟨?_, ?_, ?_⟩
    · simp [stream, Registry.empty, kindsOf]
    · simp [stream, Registry.empty, kindsOf, Registry.keys]
    · simp [hnone, Registry.empty, Registry.keys]
  | edit h e hclear hfresh ih =>
    have htracks := h.tracks_covers.1
    have he : e ≠ .clear := fun he => Bool.false_ne_true (hclear he)
    exact htracks.edit_induction
      (P := fun r => InStep node { registry := r, remote := _, told := _ })
      (fun hstep h => h.of_keyStep hstep) ih he
  | tell h hnext ih => exact ih.tell hnext
  | resync h ih => exact ⟨ih.alternates, ih.parity, fun key _ => RemoteKeys.mem_keys_replace⟩

/-- Without clearing, the node has exactly the registered keys whenever nothing is queued,
the last queued change of a key tells whether it is registered, and the changes of a key
alternate, beginning with an appearance. With clearing, the node still lacks no registered
key when nothing is queued. -/
theorem keys_of_reachable {node : PeerId} {clears : Bool} {a : Announced}
    (h : Reachable node clears a) :
    (clears = false →
      (a.registry.pending = [] → ∀ key,
        key ∈ a.remote.keys node ↔ key ∈ a.registry.toList.map (·.key)) ∧
      (∀ key kind, (kindsOf key a.registry.pending).getLast? = some kind →
        (kind = .added ↔ key ∈ a.registry.toList.map (·.key))) ∧
      (∀ (key : SubscriptionKey) (i : Nat) (kind : ChangeKind),
        (kindsOf key a.stream)[i]? = some kind → (kind = .added ↔ i % 2 = 0))) ∧
    (a.registry.pending = [] → ∀ s ∈ a.registry.toList, s.key ∈ a.remote.keys node) := by
  obtain ⟨htracks, hcovers⟩ := h.tracks_covers
  constructor
  · rintro rfl
    have hstep := h.inStep
    refine ⟨fun hnone key => ?_, fun key kind hlast => ?_, hstep.alternates⟩
    · rw [← htracks.sound.mem_keys]
      refine hstep.settled key ?_
      rw [hnone]
      rfl
    · obtain ⟨kinds, hkinds⟩ := List.getLast?_eq_some_iff.mp hlast
      have hstream : kindsOf key a.stream = kindsOf key a.told ++ kinds ++ [kind] := by
        rw [stream, KeyChange.kindsOf_append, hkinds, List.append_assoc]
      have hturn := hstep.alternates key (kindsOf key a.told ++ kinds).length kind
        (by rw [hstream, List.getElem?_concat_length])
      have hodd := hstep.parity key
      rw [hstream, List.length_append, List.length_singleton] at hodd
      rw [hturn, ← htracks.sound.mem_keys, hodd]
      omega
  · intro hnone s hs
    have hkey := (htracks.sound.mem_keys s.key).mpr (List.mem_map_of_mem hs)
    rcases hcovers s.key hkey with hlast | hheld
    · rw [hnone] at hlast
      cases hlast
    · exact hheld.2

/-- A node that was told of one key, received all keys, and is not yet told of the other
key coming and going. -/
def behind : Announced :=
  let a : Announced := ⟨Registry.empty '.' true, .empty, []⟩
  let a : Announced := { a with
    registry := Registry.Edit.apply (.insert ⟨1, "games", "ann", none, none, none, 0⟩) a.registry }
  let a : Announced :=
    ⟨a.registry.pop.1, a.remote.receive 7 ⟨⟨none, none⟩, .added⟩,
      a.told ++ [⟨⟨none, none⟩, .added⟩]⟩
  let a : Announced := { a with
    registry := Registry.Edit.apply (.insert ⟨2, "games", "bob", none, some "x = 1", none, 0⟩)
      a.registry }
  let a : Announced := { a with remote := a.remote.replace 7 a.registry.keys }
  { a with registry := Registry.Edit.apply (.removeClient "bob") a.registry }

theorem keys_of_reachable_behind :
    Reachable 7 false behind ∧
      (∀ kind, (kindsOf ⟨some "x = 1", none⟩ behind.registry.pending).getLast? = some kind →
        (kind = .added ↔ ⟨some "x = 1", none⟩ ∈ behind.registry.toList.map (·.key))) ∧
      behind.registry.pending =
        [⟨⟨some "x = 1", none⟩, .added⟩, ⟨⟨some "x = 1", none⟩, .removed⟩] := by
  have hstart : Reachable 7 false ⟨Registry.empty '.' true, .empty, []⟩ := .start '.' .empty rfl
  have hfirst := hstart.edit (.insert ⟨1, "games", "ann", none, none, none, 0⟩) nofun
    (fun s hs => by cases hs; rfl)
  have htold := @Reachable.tell 7 false _ hfirst ⟨⟨none, none⟩, .added⟩ rfl
  have hsecond := htold.edit (.insert ⟨2, "games", "bob", none, some "x = 1", none, 0⟩) nofun
    (fun s hs => by cases hs; rfl)
  have hbehind : Reachable 7 false behind :=
    hsecond.resync.edit (.removeClient "bob") nofun nofun
  exact ⟨hbehind, ((keys_of_reachable hbehind).1 rfl).2.1 _, rfl⟩

end Announced

end MessageBroker
