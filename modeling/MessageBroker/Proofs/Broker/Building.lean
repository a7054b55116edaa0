/-
# A broker that was just built

Settings that were accepted name every destination by the key it stands under, so no two
destinations of a broker have one name. A broker that was built from them has nothing on
record, and its books are in order.
-/

import MessageBroker.Proofs.Broker.Subscribing

open Std

namespace MessageBroker

namespace Except

variable {ε α β γ : Type} {f : α → Except ε β} {l : List α} {l' : List β}

theorem exists_of_mapM_cons_eq_ok {a : α} (h : (a :: l).mapM f = .ok l') :
    ∃ b bs, f a = .ok b ∧ l.mapM f = .ok bs ∧ l' = b :: bs := by
  rw [List.mapM_cons] at h
  obtain ⟨b, hb, hrest⟩ := exists_of_bind_eq_ok h
  obtain ⟨bs, hbs, hsame⟩ := exists_of_bind_eq_ok hrest
  cases hsame
  exact ⟨b, bs, hb, hbs, rfl⟩

/-- What an answer for each element keeps of the element, the answers keep of the list. -/
theorem map_eq_of_mapM_eq_ok {g : α → γ} {h : β → γ} (hstep : ∀ a b, f a = .ok b → h b = g a)
    (hall : l.mapM f = .ok l') : l'.map h = l.map g := by
  induction l generalizing l' with
  | nil =>
    cases hall
    rfl
  | cons a l ih =>
    obtain ⟨b, bs, hb, hbs, rfl⟩ := exists_of_mapM_cons_eq_ok hall
    rw [List.map_cons, List.map_cons, hstep a b hb, ih hbs]

/-- Each of the answers was given for some element. -/
theorem exists_of_mem_of_mapM_eq_ok (hall : l.mapM f = .ok l') {b : β} (hb : b ∈ l') :
    ∃ a ∈ l, f a = .ok b := by
  induction l generalizing l' with
  | nil =>
    cases hall
    cases hb
  | cons a l ih =>
    obtain ⟨first, rest, hfirst, hrest, rfl⟩ := exists_of_mapM_cons_eq_ok hall
    rcases List.mem_cons.mp hb with rfl | hb
    · exact ⟨a, List.mem_cons_self, hfirst⟩
    · obtain ⟨a', ha', hanswer⟩ := ih hrest hb
      exact ⟨a', List.mem_cons_of_mem _ ha', hanswer⟩

end Except

/-- The shelf of a destination that is not started yet. -/
def DestinationSettings.shelf (s : DestinationSettings) : Shelf :=
  ⟨s.id, s.separator, false, .empty s.separator (s.routingMode = .serverToServer)⟩

/-- Accepted settings name each destination by its key. -/
theorem Settings.id_eq_of_accept {raw settings : Settings} (haccept : raw.accept = .ok settings)
    {id : DestinationId} {s : DestinationSettings} (hs : settings.destinations[id]? = some s) :
    s.id = id := by
  obtain ⟨_, -, hsame⟩ := Except.exists_of_bind_eq_ok haccept
  cases hsame
  rw [named, ExtTreeMap.getElem?_map] at hs
  obtain ⟨s', -, rfl⟩ := Option.map_eq_some_iff.mp hs
  rfl

theorem Settings.nodup_ids_of_accept {raw settings : Settings}
    (haccept : raw.accept = .ok settings) :
    (settings.destinations.values.map (·.id)).Nodup := by
  have hordered : settings.destinations.values.Pairwise
      fun s t => compare s.id t.id = .lt :=
    Maps.pairwise_values fun _ _ hs => id_eq_of_accept haccept hs
  rw [List.Nodup, List.pairwise_map]
  apply hordered.imp
  intro s t hlt heq
  rw [heq, compare_self] at hlt
  cases hlt

namespace Books

/-- Books with nothing on record. -/
def blank (all : List DestinationSettings) : Books where
  shelves := all.map (·.shelf)
  sessions := ∅
  owners := ∅
  counts := all.map fun s => (s.id, 0)
  sessionCount := 0
  subscriptionCount := 0
  next := 1

variable {all : List DestinationSettings}

theorem not_holds_blank {id : DestinationId} {s : Subscription} : ¬ (blank all).Holds id s := by
  rintro ⟨sh, hsh, -, hget⟩
  obtain ⟨settings, -, rfl⟩ := List.mem_map.mp hsh
  simp [DestinationSettings.shelf, Registry.empty, Registry.get?] at hget

theorem accounted_blank (hids : (all.map (·.id)).Nodup) : (blank all).Accounted [] := by
  constructor
  case ids =>
    rw [blank, List.map_map]
    exact hids
  case sound =>
    intro sh hsh
    obtain ⟨s, -, rfl⟩ := List.mem_map.mp hsh
    exact Registry.sound_empty _ _
  case readable =>
    intro sh hsh
    obtain ⟨s, -, rfl⟩ := List.mem_map.mp hsh
    exact ⟨Registry.readable_empty _ _, rfl⟩
  case home => exact fun hs => absurd hs not_holds_blank
  case owned => exact fun hs => absurd hs not_holds_blank
  case stray => exact fun hs => absurd hs List.not_mem_nil
  case owners =>
    intro i id hi
    simp [blank] at hi
  case listings =>
    intro c i id hi
    simp [blank, listed] at hi
  case counters =>
    rw [blank, List.map_map, List.map_map]
    rfl
  case counts =>
    intro sh hsh n hn
    obtain ⟨s, -, rfl⟩ := List.mem_map.mp hsh
    obtain ⟨t, -, heq⟩ := List.mem_map.mp hn
    exact (congrArg Prod.snd heq).symm
  case total =>
    rw [blank, List.map_map]
    show (0 : Int) = (all.map fun _ => (0 : Int)).sum
    induction all with
    | nil => rfl
    | cons s all ih =>
      rw [List.map_cons, List.sum_cons, ← ih (List.nodup_cons.mp hids).2]
      rfl
  case sessions => rfl
  case idle =>
    intro sh hsh _
    obtain ⟨s, -, rfl⟩ := List.mem_map.mp hsh
    rfl

end Books

namespace Broker

/-- A broker that was just built, from accepted settings. -/
def IsBuilt (b : Broker) : Prop :=
  ∃ (raw settings : Settings) (equipment : Equipment),
    raw.accept = .ok settings ∧ build settings equipment = .ok b

theorem shelf_of_buildDestination {settings : Settings} {equipment : Equipment}
    {s : DestinationSettings} {d : Destination}
    (h : buildDestination settings equipment s = .ok d) :
    d.shelf = s.shelf ∧ d.counter = (s.id, 0) := by
  unfold buildDestination at h
  split at h
  · cases h
  · obtain ⟨_, -, hadapter⟩ := Except.exists_of_bind_eq_ok h
    obtain ⟨adapter, -, hlimiter⟩ := Except.exists_of_bind_eq_ok hadapter
    obtain ⟨limiter, -, hsame⟩ := Except.exists_of_bind_eq_ok hlimiter
    cases hsame
    exact ⟨rfl, rfl⟩

theorem destinations_of_build {settings : Settings} {equipment : Equipment} {b : Broker}
    (h : build settings equipment = .ok b) :
    ∃ destinations,
      settings.destinations.values.mapM (buildDestination settings equipment) = .ok destinations ∧
      b =
        { settings
          destinations
          sessions := ∅
          owners := ∅
          hooks := .empty
          sessionGauge := .zero
          subscriptionGauge := .zero
          nextSubscription := 1
          sweeper := none
          journal := [] } := by
  unfold build at h
  split at h
  · cases h
  · obtain ⟨destinations, hall, hsame⟩ := Except.exists_of_bind_eq_ok h
    cases hsame
    exact ⟨destinations, hall, rfl⟩

/-- The books of a broker that was just built are in order. -/
theorem IsBuilt.accounted {b : Broker} (h : b.IsBuilt) : b.books.Accounted [] := by
  obtain ⟨raw, settings, equipment, haccept, hbuild⟩ := h
  obtain ⟨destinations, hall, rfl⟩ := destinations_of_build hbuild
  have hshelves : destinations.map (·.shelf) = settings.destinations.values.map (·.shelf) :=
    Except.map_eq_of_mapM_eq_ok (fun _ _ hd => (shelf_of_buildDestination hd).1) hall
  have hcounts : destinations.map (·.counter) =
      settings.destinations.values.map fun s => (s.id, 0) :=
    Except.map_eq_of_mapM_eq_ok (fun _ _ hd => (shelf_of_buildDestination hd).2) hall
  have hblank := Books.accounted_blank (Settings.nodup_ids_of_accept haccept)
  rw [Books.blank, ← hshelves, ← hcounts] at hblank
  exact hblank

end Broker

end MessageBroker
