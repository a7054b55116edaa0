/-
# Ending subscriptions and sessions

Whatever ends subscriptions or sessions keeps the books in order, and what the registries
hold afterwards they held before. This is said of a broker before and after, with the
strays that it may begin with and leave behind: taking subscriptions out of a registry
leaves strays, and cleaning up after a subscription gets rid of one.

Handlers and other nodes are called in between, and they may call back. What they call back
for is of the same kind, so it may be assumed of a context that its calls back keep the
books in order, and it is proved of the contexts that operations run in, by induction on
the depth of the nesting.
-/

import MessageBroker.Proofs.Broker.Accounts

open Std

namespace MessageBroker

/-- What stays when something is ended: the name of a destination, its separator, and
whether it is started. -/
def Shelf.frame (sh : Shelf) : DestinationId × Char × Bool := (sh.id, sh.separator, sh.started)

/-- Nothing is held in the later books that was not held in the earlier ones, and apart
from that the shelves are the same. -/
structure Books.Shrinks (k k' : Books) : Prop where
  frames : k'.shelves.map Shelf.frame = k.shelves.map Shelf.frame
  next : k'.next = k.next
  held : ∀ {id s}, k'.Holds id s → k.Holds id s

namespace Books.Shrinks

variable {k k' k'' : Books}

theorem refl (k : Books) : k.Shrinks k := ⟨rfl, rfl, fun h => h⟩

theorem trans (h : k.Shrinks k') (h' : k'.Shrinks k'') : k.Shrinks k'' :=
  ⟨h'.frames.trans h.frames, h'.next.trans h.next, fun hs => h.held (h'.held hs)⟩

theorem reshelve {id : DestinationId} (change : Registry → Registry) {removed : List Subscription}
    (hthins : ∀ sh ∈ k.shelves, sh.id = id → sh.registry.Thins removed (change sh.registry)) :
    k.Shrinks (k.reshelve id change) :=
  ⟨map_onShelf _ fun _ => rfl, rfl, holds_of_holds_reshelve change hthins⟩

end Books.Shrinks

namespace Broker

/-- Books in order with some strays lead to books in order with other ones, and nothing new
is held. Further strays stay what they are. -/
def Carries (before after : Strays) (b b' : Broker) : Prop :=
  ∀ strays, b.books.Accounted (before ++ strays) →
    b'.books.Accounted (after ++ strays) ∧ b.books.Shrinks b'.books

/-- Books in order stay so, and nothing new is held. -/
abbrev Keeps (b b' : Broker) : Prop := Carries [] [] b b'

variable {b b' b'' : Broker} {g g' g'' : Strays} {id : DestinationId} {c : ClientId}

theorem Carries.trans (h : Carries g g' b b') (h' : Carries g' g'' b' b'') :
    Carries g g'' b b'' := by
  intro strays hb
  obtain ⟨hb', hshrinks⟩ := h strays hb
  obtain ⟨hb'', hshrinks'⟩ := h' strays hb'
  exact ⟨hb'', hshrinks.trans hshrinks'⟩

/-- Strays that are not dealt with stay. -/
theorem Carries.frame (h : Carries g g' b b') (rest : Strays) :
    Carries (g ++ rest) (g' ++ rest) b b' := by
  intro strays hb
  rw [List.append_assoc] at hb ⊢
  exact h (rest ++ strays) hb

theorem keeps_of_books_eq (h : b'.books = b.books) : Keeps b b' := by
  intro strays hb
  rw [h]
  exact ⟨hb, .refl _⟩

theorem Keeps.refl (b : Broker) : Keeps b b := keeps_of_books_eq rfl

/-- Going through a list keeps the books in order when each step does. -/
theorem keeps_foldl {σ α : Type} (broker : σ → Broker) {step : σ → α → σ}
    (hstep : ∀ w a, Keeps (broker w) (broker (step w a))) (l : List α) (w : σ) :
    Keeps (broker w) (broker (l.foldl step w)) := by
  induction l generalizing w with
  | nil => exact .refl _
  | cons a l ih => exact (hstep w a).trans (ih (step w a))

end Broker

/-- Calls back in a context keep the books in order. -/
def Context.Keeps (ctx : Context) : Prop :=
  ∀ callback b, Broker.Keeps b (ctx.reenter callback b).1

namespace Broker

variable {b b' b'' : Broker} {g g' g'' : Strays} {id : DestinationId} {c : ClientId}
  {ctx : Context}

/-! ## Telling handlers and other nodes -/

theorem keeps_callHandler (hctx : ctx.Keeps) (n : Notice) (b : Broker) (h : Handler) :
    Keeps b (callHandler ctx n b h) := by
  have hrecord : Keeps b (b.record (.hook h.name n)) := keeps_of_books_eq rfl
  unfold callHandler
  cases h.callback n with
  | none => exact hrecord
  | some callback =>
    cases callback with
    | disconnect c => exact hrecord.trans (hctx _ _)
    | unsubscribe id =>
      exact (hrecord.trans (hctx (.unsubscribe id) _)).trans (keeps_of_books_eq rfl)

theorem keeps_notify (hctx : ctx.Keeps) (n : Notice) (b : Broker) : Keeps b (notify ctx n b) := by
  have hrecord : Keeps b (b.record (.notice n)) := keeps_of_books_eq rfl
  exact hrecord.trans (keeps_foldl (fun b => b) (keeps_callHandler hctx n) _ _)

theorem keeps_tellChange (hctx : ctx.Keeps) (id : DestinationId) (change : KeyChange)
    (b : Broker) : Keeps b (tellChange ctx id change b) := by
  unfold tellChange
  cases ctx.env.cluster with
  | none => exact .refl b
  | some cluster =>
    have hrecord : Keeps b (b.record (.change id change)) := keeps_of_books_eq rfl
    dsimp only
    cases cluster.callback id change with
    | none =>
      cases cluster.tellChange id change with
      | ok _ => exact hrecord
      | error fault => exact hrecord.trans (keeps_of_books_eq rfl)
    | some callback =>
      have hcalled := hrecord.trans (hctx callback _)
      cases cluster.tellChange id change with
      | ok _ => exact hcalled
      | error fault => exact hcalled.trans (keeps_of_books_eq rfl)

theorem mem_of_destination? {d : Destination} (h : b.destination? id = some d) :
    d ∈ b.destinations ∧ d.id = id := by
  refine ⟨List.mem_of_find?_eq_some h, ?_⟩
  simpa using List.find?_some h

theorem exists_shelf_of_destination? {d : Destination} (h : b.destination? id = some d) :
    ∃ sh ∈ b.books.shelves, sh.id = id := by
  obtain ⟨hd, hid⟩ := mem_of_destination? h
  exact ⟨d.shelf, List.mem_map_of_mem hd, hid⟩

theorem keeps_pop {d : Destination} (h : b.destination? id = some d) :
    Keeps b (b.onDestination id fun d => { d with registry := d.registry.pop.1 }) := by
  intro strays hb
  have hthins : ∀ sh ∈ b.books.shelves, sh.id = id → sh.registry.Thins [] sh.registry.pop.1 :=
    fun sh hsh _ => (hb.sound sh hsh).thins_pop
  rw [books_onDestination_registry fun r => r.pop.1]
  have hpopped := hb.reshelve (fun r => r.pop.1) (exists_shelf_of_destination? h) hthins
  exact ⟨hpopped, .reshelve (fun r => r.pop.1) hthins⟩

theorem keeps_tellChanges (hctx : ctx.Keeps) (id : DestinationId) (fuel : Nat) (b : Broker) :
    Keeps b (tellChanges ctx id fuel b) := by
  induction fuel generalizing b with
  | zero => exact .refl b
  | succ fuel ih =>
    unfold tellChanges
    split
    · exact .refl b
    next change hnext =>
      obtain ⟨d, hd, -⟩ := Option.bind_eq_some_iff.mp hnext
      exact ((keeps_pop hd).trans (keeps_tellChange hctx id change _)).trans (ih _)

theorem keeps_announce (hctx : ctx.Keeps) (id : DestinationId) (b : Broker) :
    Keeps b (announce ctx id b) := by
  have hflag (flag : Bool) (b : Broker) :
      Keeps b (b.onDestination id fun d => { d with announcing := flag }) :=
    keeps_of_books_eq (books_onDestination_of_shelf (fun _ => rfl) (fun _ => rfl))
  unfold announce
  split
  · exact .refl b
  · split
    · exact .refl b
    · exact ((hflag true b).trans (keeps_tellChanges hctx id _ _)).trans (hflag false _)

/-! ## Ending subscriptions -/

/-- Taking subscriptions out of a registry leaves them as strays. -/
theorem carries_takeOut {take : Registry → Registry × List Removed}
    (htake : ∀ r : Registry, r.Sound →
      r.Thins ((take r).2.map (·.subscription)) (take r).1) (id : DestinationId) (b : Broker) :
    Carries [] (((takeOut id take b).2.map (·.subscription)).map fun s => (id, s)) b
      (takeOut id take b).1 := by
  unfold takeOut
  cases hd : b.destination? id with
  | none => exact Keeps.refl b
  | some d =>
    intro strays hb
    obtain ⟨hmem, hid⟩ := mem_of_destination? hd
    have hshelf : d.shelf ∈ b.books.shelves := List.mem_map_of_mem hmem
    have hthins : ∀ sh ∈ b.books.shelves, sh.id = id →
        sh.registry.Thins ((take d.registry).2.map (·.subscription)) (take d.registry).1 :=
      hb.of_shelf hshelf hid (htake d.registry (hb.sound d.shelf hshelf))
    dsimp only
    rw [books_onDestination_registry fun _ => (take d.registry).1]
    exact ⟨hb.reshelve _ ⟨d.shelf, hshelf, hid⟩ hthins, .reshelve _ hthins⟩

/-- Strikes all records of a subscription but its registry. -/
def strike (id : DestinationId) (s : Subscription) (b : Broker) : Broker :=
  let b := { b with owners := b.owners.erase s.id }
  let b := b.onSession s.client fun session =>
    { session with subscriptions := session.subscriptions.erase s.id }
  let b := b.onTotals id fun t => { t with subscriptions := t.subscriptions.dec }
  { b with subscriptionGauge := b.subscriptionGauge.dec }

theorem detach_eq (ctx : Context) (id : DestinationId) (reason : UnsubscribeReason) (b : Broker)
    (s : Subscription) :
    detach ctx id reason b s =
      announce ctx id (notify ctx (.unsubscribed s reason) (b.strike id s)) :=
  rfl

theorem books_strike (id : DestinationId) (s : Subscription) (b : Broker) :
    (b.strike id s).books = b.books.strike id s := by
  let b₁ : Broker := { b with owners := b.owners.erase s.id }
  let b₂ := b₁.onSession s.client fun session =>
    { session with subscriptions := session.subscriptions.erase s.id }
  let b₃ := b₂.onTotals id fun t => { t with subscriptions := t.subscriptions.dec }
  have h₂ : b₂.books = b₁.books.onListing s.client (·.erase s.id) := books_onSession fun _ => rfl
  have h₃ : b₃.books = b₂.books.onCount id fun n => max (n - 1) 0 := books_onTotals fun _ => rfl
  show { b₃.books with subscriptionCount := max (b₃.books.subscriptionCount - 1) 0 } = _
  rw [h₃, h₂]
  rfl

/-- Cleaning up after a stray gets rid of it. -/
theorem carries_detach (hctx : ctx.Keeps) (id : DestinationId) (reason : UnsubscribeReason)
    (b : Broker) (s : Subscription) :
    Carries [(id, s)] [] b (detach ctx id reason b s) := by
  have hstrike : Carries [(id, s)] [] b (b.strike id s) := by
    intro strays hb
    rw [books_strike]
    exact ⟨hb.strike, ⟨rfl, rfl, fun ht => ht⟩⟩
  rw [detach_eq]
  exact (hstrike.trans (keeps_notify hctx _ _)).trans (keeps_announce hctx id _)

theorem carries_foldl_detach (hctx : ctx.Keeps) (id : DestinationId) (reason : UnsubscribeReason)
    (subs : List Subscription) (b : Broker) :
    Carries (subs.map fun s => (id, s)) [] b (subs.foldl (detach ctx id reason) b) := by
  induction subs generalizing b with
  | nil => exact Keeps.refl b
  | cons s subs ih =>
    exact ((carries_detach hctx id reason b s).frame _).trans (ih _)

theorem keeps_takeOut_detach (hctx : ctx.Keeps) {take : Registry → Registry × List Removed}
    (htake : ∀ r : Registry, r.Sound →
      r.Thins ((take r).2.map (·.subscription)) (take r).1)
    (id : DestinationId) (reason : UnsubscribeReason) (b : Broker) :
    Keeps b (((takeOut id take b).2.map (·.subscription)).foldl (detach ctx id reason)
      (takeOut id take b).1) :=
  (carries_takeOut htake id b).trans (carries_foldl_detach hctx id reason _ _)

/-- Takes the subscription with a number out of a registry. -/
def takeOne (i : SubscriptionId) (r : Registry) : Registry × List Removed :=
  ((r.remove i).1, (r.remove i).2.toList)

theorem thins_takeOne (i : SubscriptionId) (r : Registry) (h : r.Sound) :
    r.Thins ((takeOne i r).2.map (·.subscription)) (takeOne i r).1 :=
  h.thins_remove i

theorem exists_destination? {sh : Shelf} (hsh : sh ∈ b.books.shelves) :
    ∃ d, b.destination? sh.id = some d := by
  obtain ⟨d, hd, rfl⟩ := List.mem_map.mp hsh
  have hsome : (b.destination? d.id).isSome := by
    rw [destination?, List.find?_isSome]
    exact ⟨d, hd, by simp⟩
  exact Option.isSome_iff_exists.mp hsome

theorem destination?_of_holds_takeOut {take : Registry → Registry × List Removed}
    {s : Subscription} (hs : (takeOut id take b).1.books.Holds id s) :
    ∃ d, b.destination? id = some d ∧ (take d.registry).1.get? s.id = some s := by
  unfold takeOut at hs
  cases hd : b.destination? id with
  | none =>
    rw [hd] at hs
    obtain ⟨sh, hsh, rfl, -⟩ := hs
    obtain ⟨d, hd'⟩ := exists_destination? hsh
    rw [hd] at hd'
    cases hd'
  | some d =>
    rw [hd] at hs
    dsimp only at hs
    rw [books_onDestination_registry fun _ => (take d.registry).1] at hs
    obtain ⟨sh, -, -, hget⟩ := Books.holds_reshelve.mp hs
    rw [if_pos rfl] at hget
    exact ⟨d, rfl, hget⟩

theorem keeps_unsubscribeAt (hctx : ctx.Keeps) (c : ClientId) (reason : UnsubscribeReason)
    (id : DestinationId) (b : Broker) : Keeps b (unsubscribeAt ctx c reason id b).1 :=
  keeps_takeOut_detach hctx (fun _ h => h.thins_removeClient c) id reason b

/-- After the subscriptions of a client at a destination were ended, there are none. -/
theorem client_ne_of_unsubscribeAt (hctx : ctx.Keeps) (c : ClientId) (reason : UnsubscribeReason)
    (id : DestinationId) {b : Broker} {strays : Strays} (hb : b.books.Accounted strays)
    {s : Subscription} (hs : (unsubscribeAt ctx c reason id b).1.books.Holds id s) :
    s.client ≠ c := by
  have htaken := carries_takeOut (fun _ h => h.thins_removeClient c) id b strays hb
  have hdetached := carries_foldl_detach hctx id reason _ _ _ htaken.1
  obtain ⟨d, hd, hget⟩ := destination?_of_holds_takeOut (hdetached.2.held hs)
  have hsound := hb.sound d.shelf (List.mem_map_of_mem (mem_of_destination? hd).1)
  exact Registry.client_ne_of_get?_removeClient hsound hget

/-- Ending the subscriptions of a client keeps the books in order. -/
theorem keeps_unsubscribeClient (hctx : ctx.Keeps) (c : ClientId) (reason : UnsubscribeReason)
    (b : Broker) : Keeps b (unsubscribeClient ctx c reason b).1 := by
  unfold unsubscribeClient
  refine keeps_foldl Prod.fst ?_ b.destinationIds (b, 0)
  intro w id
  exact keeps_unsubscribeAt hctx c reason id w.1

/-- After the subscriptions of a client were ended, it has none. -/
theorem client_ne_of_unsubscribeClient (hctx : ctx.Keeps) (c : ClientId)
    (reason : UnsubscribeReason) {b : Broker} {strays : Strays} (hb : b.books.Accounted strays)
    {s : Subscription} (hs : (unsubscribeClient ctx c reason b).1.books.Holds id s) :
    s.client ≠ c := by
  -- What was ended at the destinations gone through stays ended, since nothing new is held.
  have hfold : ∀ (ids : List DestinationId) (w : Broker × Nat), w.1.books.Accounted strays →
      id ∈ ids ∨ (∀ t, w.1.books.Holds id t → t.client ≠ c) →
      ∀ t, (ids.foldl (fun w id =>
        ((unsubscribeAt ctx c reason id w.1).1, w.2 + (unsubscribeAt ctx c reason id w.1).2))
          w).1.books.Holds id t → t.client ≠ c := by
    intro ids
    induction ids with
    | nil => exact fun w _ hor => hor.resolve_left List.not_mem_nil
    | cons first ids ih =>
      intro w hw hor
      obtain ⟨hkept, hshrinks⟩ := keeps_unsubscribeAt hctx c reason first w.1 strays hw
      refine ih _ hkept ?_
      by_cases hid : id ∈ ids
      · exact .inl hid
      · right
        intro t ht
        by_cases hfirst : id = first
        · subst hfirst
          exact client_ne_of_unsubscribeAt hctx c reason id hw ht
        · have hlater := hor.resolve_left fun hmem => (List.mem_cons.mp hmem).elim hfirst hid
          exact hlater t (hshrinks.held ht)
  refine hfold b.destinationIds (b, 0) hb (.inl ?_) s hs
  obtain ⟨sh, hsh, rfl, -⟩ := (keeps_unsubscribeClient hctx c reason b strays hb).2.held hs
  obtain ⟨d, hd, rfl⟩ := List.mem_map.mp hsh
  exact List.mem_map_of_mem hd

/-! ## Ending sessions -/

theorem books_dropCounters (c : ClientId) (b : Broker) : (dropCounters c b).books = b.books := by
  simp only [dropCounters, books, List.map_map]
  rfl

theorem getElem?_books_sessions (b : Broker) (c : ClientId) :
    b.books.sessions[c]? = (b.sessions[c]?).map (·.subscriptions) := by
  rw [books, ExtTreeMap.getElem?_map]

theorem mem_books_sessions : c ∈ b.books.sessions ↔ c ∈ b.sessions := by
  rw [ExtTreeMap.mem_iff_isSome_getElem?, ExtTreeMap.mem_iff_isSome_getElem?,
    getElem?_books_sessions, Option.isSome_map]

theorem holds_none_of_isEmpty {strays : Strays} (hb : b.books.Accounted strays) {session : Session}
    (hsession : b.sessions[c]? = some session) (hempty : session.subscriptions.isEmpty = true)
    {s : Subscription} (hs : b.books.Holds id s) : s.client ≠ c := by
  rintro rfl
  have hlisted := (hb.owned hs).2
  rw [Books.listed, getElem?_books_sessions, hsession] at hlisted
  simp [ExtTreeMap.isEmpty_iff.mp hempty] at hlisted

/-- A session that is ended has no subscriptions, either because it may only end so, or
because they were ended before. -/
theorem holds_none_of_ends {strays : Strays} (hb : b.books.Accounted strays) {session : Session}
    (hsession : b.sessions[c]? = some session) {onlyIfEmpty : Bool}
    (hends : ¬(onlyIfEmpty && !session.subscriptions.isEmpty) = true)
    (hnone : onlyIfEmpty = false → ∀ {id s}, b.books.Holds id s → s.client ≠ c)
    {s : Subscription} (hs : b.books.Holds id s) : s.client ≠ c := by
  cases onlyIfEmpty with
  | false => exact hnone rfl hs
  | true =>
    have hempty : session.subscriptions.isEmpty = true := by simpa using hends
    exact holds_none_of_isEmpty hb hsession hempty hs

/-- Erases the session of a client, and the throttle counters with it. -/
theorem books_endSession (c : ClientId) (b : Broker) :
    (dropCounters c
      { b with sessions := b.sessions.erase c, sessionGauge := b.sessionGauge.dec }).books =
      b.books.closeSession c := by
  rw [books_dropCounters]
  have hsessions : (b.sessions.erase c).map (fun _ s => s.subscriptions) =
      b.books.sessions.erase c := by
    ext1 c'
    rw [ExtTreeMap.getElem?_map, Maps.getElem?_erase_ite, Maps.getElem?_erase_ite,
      getElem?_books_sessions]
    split <;> rfl
  rw [books, hsessions]
  rfl

theorem keeps_terminate (hctx : ctx.Keeps) (c : ClientId) (onlyIfEmpty : Bool) {b : Broker}
    {strays : Strays} (hb : b.books.Accounted strays)
    (hnone : onlyIfEmpty = false → ∀ {id s}, b.books.Holds id s → s.client ≠ c) :
    (terminate ctx c onlyIfEmpty b).books.Accounted strays ∧
      b.books.Shrinks (terminate ctx c onlyIfEmpty b).books := by
  have hdrop : Keeps b (dropCounters c b) := keeps_of_books_eq (books_dropCounters c b)
  unfold terminate
  cases hsession : b.sessions[c]? with
  | none =>
    dsimp only
    split
    · exact Keeps.refl b strays hb
    · exact hdrop strays hb
  | some session =>
    dsimp only
    split
    · exact Keeps.refl b strays hb
    next hends =>
      have hlive : c ∈ b.sessions :=
        ExtTreeMap.mem_iff_isSome_getElem?.mpr (Option.isSome_of_eq_some hsession)
      have hmem : c ∈ b.books.sessions := mem_books_sessions.mpr hlive
      let b₁ : Broker :=
        { b with sessions := b.sessions.erase c, sessionGauge := b.sessionGauge.dec }
      have hclosed : (dropCounters c b₁).books.Accounted strays := by
        rw [books_endSession]
        exact hb.closeSession hmem fun hs => holds_none_of_ends hb hsession hends hnone hs
      have hshrinks : b.books.Shrinks (dropCounters c b₁).books := by
        rw [books_endSession]
        exact ⟨rfl, rfl, fun hs => hs⟩
      obtain ⟨hnotified, hshrinks'⟩ := keeps_notify hctx (.sessionTerminated c) _ strays hclosed
      exact ⟨hnotified, hshrinks.trans hshrinks'⟩

theorem keeps_disconnectIn (hctx : ctx.Keeps) (c : ClientId) (b : Broker) :
    Keeps b (disconnectIn ctx c b).1 := by
  intro strays hb
  obtain ⟨hended, hshrinks⟩ := keeps_unsubscribeClient hctx c .disconnect b strays hb
  have hnone : false = false → ∀ {id s},
      (unsubscribeClient ctx c .disconnect b).1.books.Holds id s → s.client ≠ c :=
    fun _ _ _ hs => client_ne_of_unsubscribeClient hctx c .disconnect hb hs
  obtain ⟨hclosed, hshrinks'⟩ := keeps_terminate hctx c false hended hnone
  exact ⟨hclosed, hshrinks.trans hshrinks'⟩

theorem keeps_unsubscribeAllIn (hctx : ctx.Keeps) (c : ClientId) (b : Broker) :
    Keeps b (unsubscribeAllIn ctx c b).1 := by
  intro strays hb
  obtain ⟨hended, hshrinks⟩ := keeps_unsubscribeClient hctx c .client b strays hb
  obtain ⟨hclosed, hshrinks'⟩ := keeps_terminate hctx c true hended nofun
  exact ⟨hclosed, hshrinks.trans hshrinks'⟩

/-! ## Calls back -/

theorem takeOut_with_owners (take : Registry → Registry × List Removed) (id : DestinationId)
    (owners : ExtTreeMap SubscriptionId DestinationId) (b : Broker) :
    takeOut id take { b with owners } =
      ({ (takeOut id take b).1 with owners }, (takeOut id take b).2) := by
  have hsame : ({ b with owners } : Broker).destination? id = b.destination? id := rfl
  unfold takeOut
  rw [hsame]
  cases b.destination? id with
  | none => rfl
  | some d => rfl

theorem unsubscribeIn_of_some {i : SubscriptionId} (howner : b.owners[i]? = some id) :
    (unsubscribeIn ctx i b).1 =
      ((takeOut id (takeOne i) b).2.map (·.subscription)).foldl (detach ctx id .client)
        { (takeOut id (takeOne i) b).1 with owners := b.owners.erase i } := by
  unfold unsubscribeIn
  rw [howner]
  dsimp only
  rw [takeOut_with_owners]
  rfl

theorem owners_takeOut (id : DestinationId) (take : Registry → Registry × List Removed)
    (b : Broker) : (takeOut id take b).1.owners = b.owners := by
  unfold takeOut
  split <;> rfl

/-- A subscription that is taken out of the registry of its owner may lose the owner too. -/
theorem carries_disown {i : SubscriptionId} {owner : DestinationId}
    (howner : b.owners[i]? = some owner) :
    Carries [] (((takeOut owner (takeOne i) b).2.map (·.subscription)).map fun s => (owner, s)) b
      { (takeOut owner (takeOne i) b).1 with owners := b.owners.erase i } := by
  intro strays hb
  obtain ⟨htaken, hshrinks⟩ := carries_takeOut (thins_takeOne i) owner b strays hb
  have hnot : ∀ {j t}, (takeOut owner (takeOne i) b).1.books.Holds j t → t.id ≠ i := by
    intro j t ht hid
    have hj := (hb.owned (hshrinks.held ht)).1
    rw [hid] at hj
    have hsame : owner = j := Option.some.inj (howner.symm.trans hj)
    subst hsame
    obtain ⟨d, -, hget⟩ := destination?_of_holds_takeOut ht
    rw [takeOne, Registry.get?_remove, if_pos hid.symm] at hget
    cases hget
  have hdisowned := htaken.disown hnot
  rw [← owners_takeOut owner (takeOne i) b]
  exact ⟨hdisowned, ⟨hshrinks.frames, hshrinks.next, hshrinks.held⟩⟩

theorem keeps_unsubscribeIn (hctx : ctx.Keeps) (i : SubscriptionId) (b : Broker) :
    Keeps b (unsubscribeIn ctx i b).1 := by
  cases howner : b.owners[i]? with
  | none =>
    unfold unsubscribeIn
    rw [howner]
    exact .refl b
  | some owner =>
    rw [unsubscribeIn_of_some howner]
    exact (carries_disown howner).trans (carries_foldl_detach hctx owner .client _ _)

/-- Calls back keep the books in order, however deep they nest. -/
theorem keeps_reenter (env : Environment) (depth : Nat) (callback : Callback) (b : Broker) :
    Keeps b (reenter env depth callback b).1 := by
  induction depth generalizing callback b with
  | zero => exact .refl b
  | succ depth ih =>
    have hctx : Context.Keeps ⟨env, reenter env depth⟩ := ih
    cases callback with
    | disconnect c => exact keeps_disconnectIn hctx c b
    | unsubscribe i => exact keeps_unsubscribeIn hctx i b

theorem keeps_context (env : Environment) (b : Broker) : (b.context env).Keeps :=
  keeps_reenter env b.depth

end Broker

end MessageBroker
