/-
# The books of a broker

A subscription is on record in several places: in the registry of its destination, in the
table of owners, in the session of its client, and in two counters. The books of a broker
are these records without anything else about it. Most of what a broker does leaves its
books as they are, and the rest is a handful of changes to them.
-/

import MessageBroker.Broker.Subscribing
import MessageBroker.Proofs.Registry.Thinning

open Std

namespace MessageBroker

/-- What the books say of a destination, without its counter. -/
structure Shelf where
  id : DestinationId
  separator : Char
  started : Bool
  registry : Registry

/-- What the sessions of clients list. -/
abbrev Listings := ExtTreeMap ClientId (ExtTreeMap SubscriptionId DestinationId)

/-- All records of subscriptions and sessions. -/
structure Books where
  shelves : List Shelf
  sessions : Listings
  owners : ExtTreeMap SubscriptionId DestinationId
  /-- The counter of subscriptions of each destination. -/
  counts : List (DestinationId × Int)
  sessionCount : Int
  subscriptionCount : Int
  next : SubscriptionId

/-- What the books say of a destination. -/
def Destination.shelf (d : Destination) : Shelf :=
  ⟨d.id, d.settings.separator, d.started, d.registry⟩

/-- The counter of subscriptions of a destination, with its name. -/
def Destination.counter (d : Destination) : DestinationId × Int :=
  (d.id, d.totals.subscriptions.count)

/-- The books of a broker. -/
def Broker.books (b : Broker) : Books where
  shelves := b.destinations.map (·.shelf)
  sessions := b.sessions.map fun _ s => s.subscriptions
  owners := b.owners
  counts := b.destinations.map (·.counter)
  sessionCount := b.sessionGauge.count
  subscriptionCount := b.subscriptionGauge.count
  next := b.nextSubscription

namespace Books

/-- Whether a subscription is in the registry of a destination. -/
def Holds (k : Books) (id : DestinationId) (s : Subscription) : Prop :=
  ∃ sh ∈ k.shelves, sh.id = id ∧ sh.registry.get? s.id = some s

/-- The destination under which the session of a client lists a number. -/
def listed (k : Books) (c : ClientId) (i : SubscriptionId) : Option DestinationId :=
  (k.sessions[c]?).bind (·[i]?)

/-- Changes the shelf of a name. -/
def onShelf (k : Books) (id : DestinationId) (change : Shelf → Shelf) : Books :=
  { k with shelves := k.shelves.map fun sh => if sh.id = id then change sh else sh }

/-- Changes the counter of a name. -/
def onCount (k : Books) (id : DestinationId) (change : Int → Int) : Books :=
  { k with counts := k.counts.map fun count =>
      (count.1, if count.1 = id then change count.2 else count.2) }

/-- Changes what the session of a client lists, if there is one. -/
def onListing (k : Books) (c : ClientId)
    (change : ExtTreeMap SubscriptionId DestinationId → ExtTreeMap SubscriptionId DestinationId) :
    Books :=
  { k with
    sessions := match k.sessions[c]? with
      | none => k.sessions
      | some listing => k.sessions.insert c (change listing) }

/-- Changes the registry of a destination. -/
def reshelve (k : Books) (id : DestinationId) (change : Registry → Registry) : Books :=
  k.onShelf id fun sh => { sh with registry := change sh.registry }

variable {k : Books} {id : DestinationId}

theorem mem_onShelf {change : Shelf → Shelf} {sh' : Shelf} :
    sh' ∈ (k.onShelf id change).shelves ↔
      ∃ sh ∈ k.shelves, (if sh.id = id then change sh else sh) = sh' :=
  List.mem_map

theorem holds_reshelve {change : Registry → Registry} {j : DestinationId} {s : Subscription} :
    (k.reshelve id change).Holds j s ↔ ∃ sh ∈ k.shelves, sh.id = j ∧
      (if j = id then change sh.registry else sh.registry).get? s.id = some s := by
  constructor
  · rintro ⟨sh', hsh', hj, hget⟩
    obtain ⟨sh, hsh, rfl⟩ := mem_onShelf.mp hsh'
    refine ⟨sh, hsh, ?_⟩
    by_cases hid : sh.id = id
    · rw [if_pos hid] at hj hget
      rw [← hj]
      exact ⟨rfl, by rw [if_pos hid]; exact hget⟩
    · rw [if_neg hid] at hj hget
      rw [← hj]
      exact ⟨rfl, by rw [if_neg hid]; exact hget⟩
  · rintro ⟨sh, hsh, rfl, hget⟩
    refine ⟨_, mem_onShelf.mpr ⟨sh, hsh, rfl⟩, ?_⟩
    by_cases hid : sh.id = id
    · rw [if_pos hid] at hget ⊢
      exact ⟨rfl, hget⟩
    · rw [if_neg hid] at hget ⊢
      exact ⟨rfl, hget⟩

theorem map_onShelf {α : Type} (f : Shelf → α) {change : Shelf → Shelf}
    (h : ∀ sh, f (change sh) = f sh) : (k.onShelf id change).shelves.map f = k.shelves.map f := by
  rw [onShelf, List.map_map]
  apply List.map_congr_left
  intro sh _
  show f (if sh.id = id then change sh else sh) = f sh
  split
  · exact h sh
  · rfl

theorem map_id_reshelve (change : Registry → Registry) :
    (k.reshelve id change).shelves.map (·.id) = k.shelves.map (·.id) :=
  map_onShelf _ fun _ => rfl

section Listings

variable {c : ClientId}
  {change : ExtTreeMap SubscriptionId DestinationId → ExtTreeMap SubscriptionId DestinationId}

theorem onListing_of_none (h : k.sessions[c]? = none) : k.onListing c change = k := by
  simp only [onListing, h]

theorem onListing_of_some {listing : ExtTreeMap SubscriptionId DestinationId}
    (h : k.sessions[c]? = some listing) :
    k.onListing c change = { k with sessions := k.sessions.insert c (change listing) } := by
  simp only [onListing, h]

theorem listed_onListing {c' : ClientId} {i : SubscriptionId} :
    (k.onListing c change).listed c' i =
      if c = c' then (k.sessions[c]?).bind fun listing => (change listing)[i]?
      else k.listed c' i := by
  cases hc : k.sessions[c]? with
  | none =>
    rw [onListing_of_none hc]
    split
    next heq =>
      rw [← heq, listed, hc]
      rfl
    next => rfl
  | some listing =>
    rw [onListing_of_some hc]
    simp only [listed, Maps.getElem?_insert_ite]
    split <;> rfl

theorem size_sessions_onListing : (k.onListing c change).sessions.size = k.sessions.size := by
  cases hc : k.sessions[c]? with
  | none => rw [onListing_of_none hc]
  | some listing =>
    have hmem : c ∈ k.sessions := ExtTreeMap.mem_iff_isSome_getElem?.mpr (by rw [hc]; rfl)
    rw [onListing_of_some hc]
    simp [ExtTreeMap.size_insert, hmem]

theorem contains_sessions_onListing {c' : ClientId} :
    (k.onListing c change).sessions.contains c' = k.sessions.contains c' := by
  cases hc : k.sessions[c]? with
  | none => rw [onListing_of_none hc]
  | some listing =>
    rw [onListing_of_some hc]
    simp only [ExtTreeMap.contains_eq_isSome_getElem?, Maps.getElem?_insert_ite]
    split
    next heq => rw [← heq, hc]; rfl
    next => rfl

theorem mem_sessions_onListing {c' : ClientId} :
    c' ∈ (k.onListing c change).sessions ↔ c' ∈ k.sessions := by
  rw [ExtTreeMap.mem_iff_contains, ExtTreeMap.mem_iff_contains, contains_sessions_onListing]

end Listings

end Books

namespace Broker

variable {b : Broker} {id : DestinationId}

theorem books_onDestination (change : Destination → Destination) {f : Shelf → Shelf}
    {g : Int → Int} (hshelf : ∀ d, (change d).shelf = f d.shelf)
    (hcount : ∀ d, (change d).counter = (d.id, g d.totals.subscriptions.count)) :
    (b.onDestination id change).books = (b.books.onShelf id f).onCount id g := by
  have hshelves : (b.onDestination id change).destinations.map (·.shelf) =
      (b.books.onShelf id f).shelves := by
    simp only [books, onDestination, Books.onShelf, List.map_map]
    apply List.map_congr_left
    intro d _
    show (if d.id = id then change d else d).shelf = if d.id = id then f d.shelf else d.shelf
    split
    · exact hshelf d
    · rfl
  have hcounts : (b.onDestination id change).destinations.map (·.counter) =
      (b.books.onCount id g).counts := by
    simp only [books, onDestination, Books.onCount, List.map_map]
    apply List.map_congr_left
    intro d _
    show (if d.id = id then change d else d).counter =
      (d.id, if d.id = id then g d.totals.subscriptions.count else d.totals.subscriptions.count)
    split
    · exact hcount d
    · rfl
  simp only [books] at hshelves hcounts ⊢
  rw [hshelves, hcounts]
  rfl

/-- A change of what the books say nothing of leaves them as they are. -/
theorem books_onDestination_of_shelf {change : Destination → Destination}
    (hshelf : ∀ d, (change d).shelf = d.shelf) (hcount : ∀ d, (change d).counter = d.counter) :
    (b.onDestination id change).books = b.books := by
  rw [books_onDestination change (f := fun sh => sh) (g := fun n => n) hshelf hcount]
  simp [Books.onShelf, Books.onCount]

theorem books_onDestination_registry (change : Registry → Registry) :
    (b.onDestination id fun d => { d with registry := change d.registry }).books =
      b.books.reshelve id change := by
  refine (books_onDestination (fun d => { d with registry := change d.registry })
    (f := fun sh => { sh with registry := change sh.registry }) (g := fun n => n)
    (fun _ => rfl) (fun _ => rfl)).trans ?_
  simp [Books.onCount, Books.reshelve]

theorem books_onTotals {change : Totals → Totals} {g : Int → Int}
    (h : ∀ t, (change t).subscriptions.count = g t.subscriptions.count) :
    (b.onTotals id change).books = b.books.onCount id g := by
  refine (books_onDestination (fun d => { d with totals := change d.totals })
    (f := fun sh => sh) (g := g) (fun _ => rfl) fun d => ?_).trans ?_
  · show (d.id, (change d.totals).subscriptions.count) = _
    rw [h]
  · simp [Books.onShelf, Books.onCount]

/-- Totals other than that of subscriptions are not in the books. -/
theorem books_onTotals_of_subscriptions {change : Totals → Totals}
    (h : ∀ t, (change t).subscriptions = t.subscriptions) :
    (b.onTotals id change).books = b.books := by
  refine books_onDestination_of_shelf (fun _ => rfl) fun d => ?_
  show (d.id, (change d.totals).subscriptions.count) = _
  rw [h]
  rfl

theorem books_onSession {c : ClientId} {change : Session → Session}
    {f : ExtTreeMap SubscriptionId DestinationId → ExtTreeMap SubscriptionId DestinationId}
    (h : ∀ s, (change s).subscriptions = f s.subscriptions) :
    (b.onSession c change).books = b.books.onListing c f := by
  have hsession : b.books.sessions[c]? = (b.sessions[c]?).map (·.subscriptions) := by
    rw [books, ExtTreeMap.getElem?_map]
  unfold onSession
  cases hc : b.sessions[c]? with
  | none =>
    rw [hc] at hsession
    rw [Books.onListing_of_none hsession]
  | some s =>
    rw [hc] at hsession
    rw [Books.onListing_of_some hsession]
    have hmap : (b.sessions.insert c (change s)).map (fun _ s => s.subscriptions) =
        b.books.sessions.insert c (f s.subscriptions) := by
      apply ExtTreeMap.ext_getElem?
      intro c'
      rw [ExtTreeMap.getElem?_map, Maps.getElem?_insert_ite, Maps.getElem?_insert_ite]
      split
      · rw [Option.map_some, h]
      · rw [books, ExtTreeMap.getElem?_map]
    rw [books, hmap]
    rfl

theorem books_onSession_of_subscriptions {c : ClientId} {change : Session → Session}
    (h : ∀ s, (change s).subscriptions = s.subscriptions) :
    (b.onSession c change).books = b.books := by
  rw [books_onSession (f := fun listing => listing) h]
  cases hc : b.books.sessions[c]? with
  | none => rw [Books.onListing_of_none hc]
  | some listing =>
    have hsame : b.books.sessions.insert c listing = b.books.sessions := by
      apply ExtTreeMap.ext_getElem?
      intro c'
      rw [Maps.getElem?_insert_ite]
      split
      next heq => rw [← heq, hc]
      next => rfl
    rw [Books.onListing_of_some hc, hsame]

end Broker

end MessageBroker
