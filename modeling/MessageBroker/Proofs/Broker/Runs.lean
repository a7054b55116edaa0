/-
# Runs of a broker

A subscription is on record in five places, and sessions are counted apart. The records of
a broker that was built from accepted settings agree after every operation: what a
destination has registered is what the table of owners and the sessions say it has, the
counters count it, and a destination that is not started has registered nothing. This
holds whatever the clock shows, whatever the collaborators answer, and whatever handlers
and other nodes have ended by calling back while an operation goes on.

No number is given to two subscriptions, however far apart in a run. That does not follow
from any one state, since a subscription that has ended leaves no record; it is carried by
the counter of numbers, which is above all that were given out.

Runs may contain any operation but one. Stopping a single destination hands its
subscriptions to the caller, and until the caller cleans up after them they remain on the
other records.
-/

import MessageBroker.Proofs.Broker.Building
import MessageBroker.Proofs.Broker.Operations
import MessageBroker.Rehearsal

open Std

namespace MessageBroker

namespace Broker

/-- Performs operations one after the other, each in an environment of its own. -/
def run (b : Broker) (steps : List (Environment × Operation)) : Broker :=
  steps.foldl (fun b step => (perform step.1 b step.2).1) b

/-- The subscription that a destination has registered under a number. -/
def registered? (b : Broker) (id : DestinationId) (n : SubscriptionId) : Option Subscription :=
  (b.destination? id).bind fun d => d.registry.get? n

/-- All records of subscriptions and sessions agree. -/
structure Consistent (b : Broker) : Prop where
  names : (b.destinations.map (·.id)).Nodup
  /-- A subscription is registered under its own number, at the destination it is for. -/
  places : ∀ {id n s}, b.registered? id n = some s → s.id = n ∧ s.destination = id
  numbers : ∀ {id n s}, b.registered? id n = some s → n < b.nextSubscription
  owners : ∀ n id, b.owners[n]? = some id ↔ (b.registered? id n).isSome
  clients : ∀ {id n s}, b.registered? id n = some s → s.client ∈ b.sessions
  listings : ∀ {c session}, b.sessions[c]? = some session → ∀ n id,
    session.subscriptions[n]? = some id ↔ ∃ s, b.registered? id n = some s ∧ s.client = c
  counters : ∀ d ∈ b.destinations, d.totals.subscriptions.count = d.registry.size
  total : b.subscriptionGauge.count =
    (b.destinations.map fun d => d.totals.subscriptions.count).sum
  sessions : b.sessionGauge.count = b.sessions.size
  idle : ∀ d ∈ b.destinations, d.started = false → d.registry.size = 0

variable {b b₀ : Broker} {id id' : DestinationId} {n : SubscriptionId} {s s' : Subscription}
  {strays : Strays}

theorem id_eq_of_registered? (hb : b.books.Accounted strays) (hs : b.registered? id n = some s) :
    s.id = n := by
  obtain ⟨d, hd, hget⟩ := Option.bind_eq_some_iff.mp hs
  exact (hb.sound d.shelf (List.mem_map_of_mem (mem_of_destination? hd).1)).id_eq hget

theorem holds_iff_registered? (hb : b.books.Accounted strays) :
    b.books.Holds id s ↔ b.registered? id s.id = some s := by
  constructor
  · rintro ⟨sh, hsh, rfl, hget⟩
    obtain ⟨d, hd, rfl⟩ := exists_destination?_of_shelf hb hsh
    exact Option.bind_eq_some_iff.mpr ⟨d, hd, hget⟩
  · intro hs
    obtain ⟨d, hd, hget⟩ := Option.bind_eq_some_iff.mp hs
    obtain ⟨hmem, hid⟩ := mem_of_destination? hd
    exact ⟨d.shelf, List.mem_map_of_mem hmem, hid, hget⟩

theorem holds_of_registered? (hb : b.books.Accounted strays) (hs : b.registered? id n = some s) :
    b.books.Holds id s := by
  rw [holds_iff_registered? hb, id_eq_of_registered? hb hs]
  exact hs

/-- Books that are in order without strays make the records agree. -/
theorem consistent_of_accounted (hb : b.books.Accounted []) : b.Consistent := by
  constructor
  case names =>
    have hids := hb.ids
    rw [books, List.map_map] at hids
    exact hids
  case places =>
    intro id n s hs
    exact ⟨id_eq_of_registered? hb hs, (hb.home (holds_of_registered? hb hs)).1⟩
  case numbers =>
    intro id n s hs
    rw [← id_eq_of_registered? hb hs]
    exact (hb.home (holds_of_registered? hb hs)).2
  case owners =>
    intro n id
    constructor
    · intro howner
      obtain ⟨s, rfl, hs | hstray⟩ := hb.owners howner
      · rw [(holds_iff_registered? hb).mp hs]
        rfl
      · cases hstray
    · intro hsome
      obtain ⟨s, hs⟩ := Option.isSome_iff_exists.mp hsome
      rw [← id_eq_of_registered? hb hs]
      exact (hb.owned (holds_of_registered? hb hs)).1
  case clients =>
    intro id n s hs
    have hlisted := (hb.owned (holds_of_registered? hb hs)).2
    obtain ⟨listing, hlisting, -⟩ := Option.bind_eq_some_iff.mp hlisted
    rw [getElem?_books_sessions] at hlisting
    obtain ⟨session, hsession, -⟩ := Option.map_eq_some_iff.mp hlisting
    rw [ExtTreeMap.mem_iff_isSome_getElem?, hsession]
    rfl
  case listings =>
    intro c session hsession n id
    have hlisted : b.books.listed c n = session.subscriptions[n]? := by
      rw [Books.listed, getElem?_books_sessions, hsession]
      rfl
    rw [← hlisted]
    constructor
    · intro hn
      obtain ⟨s, rfl, hclient, hs | hstray⟩ := hb.listings hn
      · exact ⟨s, (holds_iff_registered? hb).mp hs, hclient⟩
      · cases hstray
    · rintro ⟨s, hs, rfl⟩
      rw [← id_eq_of_registered? hb hs]
      exact (hb.owned (holds_of_registered? hb hs)).2
  case counters =>
    intro d hd
    have hcount := hb.counts d.shelf (List.mem_map_of_mem hd) d.totals.subscriptions.count
      (List.mem_map_of_mem (f := Destination.counter) hd)
    rw [hcount]
    exact Int.add_zero _
  case total =>
    have htotal := hb.total
    rw [books, List.map_map] at htotal
    exact htotal
  case sessions =>
    have hcount := hb.sessions
    rw [books, ExtTreeMap.size_map] at hcount
    exact hcount
  case idle =>
    intro d hd
    exact hb.idle d.shelf (List.mem_map_of_mem hd)

theorem staysAccounted_run (steps : List (Environment × Operation)) (b : Broker)
    (horderly : ∀ step ∈ steps, step.2.IsOrderly) : StaysAccounted b (b.run steps) := by
  induction steps generalizing b with
  | nil => exact .refl b
  | cons step steps ih =>
    have hfirst := staysAccounted_perform step.1 b (horderly step List.mem_cons_self)
    exact hfirst.trans (ih _ fun other hother => horderly other (List.mem_cons_of_mem _ hother))

theorem run_append (b : Broker) (earlier later : List (Environment × Operation)) :
    b.run (earlier ++ later) = (b.run earlier).run later :=
  List.foldl_append

/-- A broker that operations of any kind lead to from one that was just built. -/
def IsReachable (b : Broker) : Prop := ∃ b₀ : Broker, b₀.IsBuilt ∧ ∃ steps, b = b₀.run steps

theorem IsReachable.run (hb : b.IsReachable) (steps : List (Environment × Operation)) :
    (b.run steps).IsReachable := by
  obtain ⟨b₀, hbuilt, before, rfl⟩ := hb
  exact ⟨b₀, hbuilt, before ++ steps, (run_append b₀ before steps).symm⟩

theorem accounted_run (steps : List (Environment × Operation)) (hb : b.books.Accounted strays) :
    ∃ more, (b.run steps).books.Accounted more := by
  induction steps generalizing b strays with
  | nil => exact ⟨strays, hb⟩
  | cons step steps ih =>
    obtain ⟨more, hstep⟩ := accounted_perform step.1 step.2 hb
    exact ih hstep

/-- The books of a reachable broker are in order, up to strays. -/
theorem IsReachable.accounted (h : b.IsReachable) : ∃ strays, b.books.Accounted strays := by
  obtain ⟨b₀, hbuilt, steps, rfl⟩ := h
  exact accounted_run steps hbuilt.accounted

theorem IsReachable.sound (h : b.IsReachable) {d : Destination}
    (hd : b.destination? id = some d) : d.registry.Sound := by
  obtain ⟨strays, haccounted⟩ := h.accounted
  exact haccounted.sound d.shelf (List.mem_map_of_mem (mem_of_destination? hd).1)

theorem IsReachable.readable (h : b.IsReachable) {d : Destination}
    (hd : b.destination? id = some d) :
    d.registry.Readable ∧ d.registry.separator = d.settings.separator := by
  obtain ⟨strays, haccounted⟩ := h.accounted
  exact haccounted.readable d.shelf (List.mem_map_of_mem (mem_of_destination? hd).1)

/-- Throughout a run of a broker that was built from accepted settings, all records of
subscriptions and sessions agree. A number that was a subscription's at some time is no
other subscription's later, and of the numbers given out by then no one is given out again:
what is registered under it later was registered under it before. -/
theorem consistent_run (hbuilt : b₀.IsBuilt) (earlier later : List (Environment × Operation))
    (horderly : ∀ step ∈ earlier ++ later, step.2.IsOrderly) :
    (b₀.run (earlier ++ later)).Consistent ∧
      (∀ {n id id' s s'}, (b₀.run earlier).registered? id n = some s →
        (b₀.run (earlier ++ later)).registered? id' n = some s' → id' = id ∧ s' = s) ∧
      ∀ {n id s}, n < (b₀.run earlier).nextSubscription →
        (b₀.run (earlier ++ later)).registered? id n = some s →
          (b₀.run earlier).registered? id n = some s := by
  have hearlier := (staysAccounted_run earlier b₀
    (fun step hstep => horderly step (List.mem_append_left _ hstep)) [] hbuilt.accounted).1
  obtain ⟨hlater, hsucceeds⟩ := staysAccounted_run later (b₀.run earlier)
    (fun step hstep => horderly step (List.mem_append_right _ hstep)) [] hearlier
  rw [run_append]
  have hkept {n : SubscriptionId} {id : DestinationId} {s : Subscription}
      (hn : n < (b₀.run earlier).nextSubscription)
      (hs : ((b₀.run earlier).run later).registered? id n = some s) :
      (b₀.run earlier).books.Holds id s := by
    rcases hsucceeds.held (holds_of_registered? hlater hs) with hheld | hnew
    · exact hheld
    · rw [id_eq_of_registered? hlater hs] at hnew
      exact absurd hnew (Nat.not_le.mpr hn)
  refine ⟨consistent_of_accounted hlater, ?_, ?_⟩
  · intro n id id' s s' hs hs'
    have hn := (consistent_of_accounted hearlier).numbers hs
    have hnumber := id_eq_of_registered? hearlier hs
    have hnumber' := id_eq_of_registered? hlater hs'
    exact hearlier.single (hkept hn hs') (holds_of_registered? hearlier hs)
      (hnumber'.trans hnumber.symm)
  · intro n id s hn hs
    rw [← id_eq_of_registered? hlater hs]
    exact (holds_iff_registered? hearlier).mp (hkept hn hs)

/-- The settings of a node with one destination. -/
def newsSettings : Settings := Settings.standard.addDestination (.standard "news")

/-- An environment in which nothing fails and nobody else is there. -/
def quiet : Environment := Script.environment ⟨∅, false, none, false, none, none⟩ 0

def quietly (ops : List Operation) : List (Environment × Operation) := ops.map fun op => (quiet, op)

/-- A client subscribes. -/
def opening : List (Environment × Operation) :=
  quietly [.start, .subscribe ⟨"news", "ann", none, none, none⟩]

/-- The client leaves, and another one subscribes. -/
def closing : List (Environment × Operation) :=
  quietly [.disconnect "ann", .subscribe ⟨"news", "bob", none, none, none⟩]

theorem consistent_run_news :
    ∃ b₀ : Broker, b₀.IsBuilt ∧ (∀ step ∈ opening ++ closing, step.2.IsOrderly) ∧
      ((b₀.run opening).registered? "news" 1).map (·.client) = some "ann" ∧
      ((b₀.run (opening ++ closing)).registered? "news" 2).map (·.client) = some "bob" ∧
      (b₀.run (opening ++ closing)).Consistent := by
  have horderly : ∀ step ∈ opening ++ closing, step.2.IsOrderly := by
    simp [opening, closing, quietly, Operation.IsOrderly]
  have hbuilt : IsBuilt _ := ⟨newsSettings, _, ⟨true, false, [], []⟩, rfl, rfl⟩
  exact ⟨_, hbuilt, horderly, rfl, rfl, (consistent_run hbuilt opening closing horderly).1⟩

end Broker

end MessageBroker
