/-
# Entering subscriptions

A subscription request that passes its checks is entered under a number that was never
given out. Until then its records are not in the books, and afterwards all of them are,
unless a handler has ended the session of the client in between; then the subscription is
taken out again at once and leaves no trace but its number.

Entering makes the books say more than before. What is held afterwards and was not held
before has a number that was not given out before.
-/

import MessageBroker.Proofs.Broker.Keeping

open Std

namespace MessageBroker

/-- An answer that was put together from two was given by both. -/
theorem Except.exists_of_bind_eq_ok {ε α β : Type} {x : Except ε α} {f : α → Except ε β} {y : β}
    (h : (x >>= f) = .ok y) : ∃ a, x = .ok a ∧ f a = .ok y := by
  cases x with
  | error e => cases h
  | ok a => exact ⟨a, rfl, h⟩

theorem Except.ok_of_mapError_eq_ok {ε δ α : Type} {x : Except ε α} {f : ε → δ} {y : α}
    (h : x.mapError f = .ok y) : x = .ok y := by
  cases x with
  | error e => cases h
  | ok a =>
    cases h
    rfl

namespace Registry

variable {r : Registry} {s : Subscription}

/-- Entering a subscription and removing it at once leaves a registry with what it held. -/
theorem Sound.thins_insert_remove (h : r.Sound) (fresh : r.get? s.id = none)
    (hread : s.ReadWith r.separator) (hfind : (r.ofClient s.client).find? s.sameFilter = none) :
    r.Thins [] ((r.insert s).1.remove s.id).1 := by
  have hinserted := h.insert fresh
  have hself : (r.insert s).1.get? s.id = some s := by
    rw [get?_insert_of_new hfind, if_pos rfl]
  have hremoved := hinserted.thins_remove s.id
  refine ⟨?_, ?_, hremoved.sound, fun hr => hremoved.readable (hr.insert hread), by simp, ?_, ?_⟩
  · exact hremoved.separator.trans (separator_insert r s)
  · exact hremoved.tracking.trans (tracking_insert r s)
  · intro i
    rw [get?_remove, get?_insert_of_new hfind]
    by_cases hi : s.id = i
    · rw [if_pos hi, ← hi, fresh]
      simp
    · simp [hi]
  · have hsize := hremoved.size
    rw [remove_of_some hself, size_insert_of_new hfind fresh] at hsize
    rw [remove_of_some hself]
    exact Nat.add_right_cancel hsize

end Registry

/-- Numbers are given out in their order, and what is newly held has a new one. -/
structure Books.Succeeds (k k' : Books) : Prop where
  next : k.next ≤ k'.next
  held : ∀ {id s}, k'.Holds id s → k.Holds id s ∨ k.next ≤ s.id

namespace Books

variable {k k' k'' : Books} {strays : Strays} {id : DestinationId} {s : Subscription}

theorem Shrinks.succeeds (h : k.Shrinks k') : k.Succeeds k' :=
  ⟨Nat.le_of_eq h.next.symm, fun hs => .inl (h.held hs)⟩

theorem Succeeds.trans (h : k.Succeeds k') (h' : k'.Succeeds k'') : k.Succeeds k'' where
  next := Nat.le_trans h.next h'.next
  held hs := by
    rcases h'.held hs with hs | hnext
    · exact h.held hs
    · exact .inr (Nat.le_trans h.next hnext)

/-- Changing the registry of one destination depends on what becomes of that registry. -/
theorem reshelve_congr {f g : Registry → Registry}
    (h : ∀ sh ∈ k.shelves, sh.id = id → f sh.registry = g sh.registry) :
    k.reshelve id f = k.reshelve id g := by
  rw [reshelve, reshelve, onShelf, onShelf]
  congr 1
  apply List.map_congr_left
  intro sh hsh
  split
  next hid => rw [h sh hsh hid]
  next => rfl

theorem reshelve_reshelve (f g : Registry → Registry) :
    (k.reshelve id f).reshelve id g = k.reshelve id fun r => g (f r) := by
  simp only [reshelve, onShelf, List.map_map]
  congr 1
  apply List.map_congr_left
  intro sh _
  by_cases hid : sh.id = id <;> simp [hid]

/-- A number that was not given out is no one's, and the records can be entered under it. -/
theorem Accounted.enterRecords_takeNumber (h : k.Accounted strays)
    (hsome : ∃ sh ∈ k.shelves, sh.id = id) (hnumber : s.id = k.next) :
    (k.takeNumber.enterRecords id s).Accounted ((id, s) :: strays) := by
  refine h.takeNumber.enterRecords hsome (hnumber ▸ Nat.lt_succ_self _) ?_
  rintro j t (ht | ht) heq
  · exact Nat.lt_irrefl _ (hnumber ▸ heq ▸ (h.home ht).2)
  · exact Nat.lt_irrefl _ (hnumber ▸ heq ▸ (h.stray ht).1)

theorem Accounted.get?_next (h : k.Accounted strays) (hnumber : s.id = k.next) {sh : Shelf}
    (hsh : sh ∈ k.shelves) : sh.registry.get? s.id = none := by
  cases hget : sh.registry.get? s.id with
  | none => rfl
  | some t =>
    have hid := (h.sound sh hsh).id_eq hget
    have hlt := (h.home ⟨sh, hsh, rfl, by rw [hid]; exact hget⟩).2
    rw [hid, hnumber] at hlt
    exact absurd hlt (Nat.lt_irrefl _)

section Entering

variable {sh₀ : Shelf}

/-- A subscription of a client with a session is entered on all records. -/
theorem Accounted.enter (h : k.Accounted strays) (hsh₀ : sh₀ ∈ k.shelves) (hid₀ : sh₀.id = id)
    (hstarted : sh₀.started = true) (hhome : s.destination = id) (hnumber : s.id = k.next)
    (hread : s.ReadWith sh₀.separator)
    (hfind : (sh₀.registry.ofClient s.client).find? s.sameFilter = none)
    (hlive : s.client ∈ k.sessions) :
    ((k.takeNumber.enterRecords id s).reshelve id fun r => (r.insert s).1).Accounted strays := by
  have hrecords := h.enterRecords_takeNumber ⟨sh₀, hsh₀, hid₀⟩ hnumber
  have hfresh := h.get?_next hnumber hsh₀
  refine hrecords.admit hhome ⟨?_, ?_⟩ ?_ hsh₀ hid₀ hstarted hread hfresh hfind
  · show (k.owners.insert s.id id)[s.id]? = _
    rw [ExtTreeMap.getElem?_insert_self]
  · obtain ⟨listing, hlisting⟩ :=
      Option.isSome_iff_exists.mp (ExtTreeMap.mem_iff_isSome_getElem?.mp hlive)
    rw [listed_enterRecords, if_pos ⟨rfl, rfl⟩]
    show (k.sessions[s.client]?).map _ = _
    rw [hlisting]
    rfl
  · intro j t ht heq
    exact Nat.lt_irrefl _ (hnumber ▸ heq ▸ (h.stray ht).1)

/-- A subscription of a client without session, entered and taken out again, is a stray. -/
theorem Accounted.enter_remove (h : k.Accounted strays) (hsh₀ : sh₀ ∈ k.shelves)
    (hid₀ : sh₀.id = id) (hnumber : s.id = k.next) (hread : s.ReadWith sh₀.separator)
    (hfind : (sh₀.registry.ofClient s.client).find? s.sameFilter = none) :
    ((k.takeNumber.enterRecords id s).reshelve id
        fun r => ((r.insert s).1.remove s.id).1).Accounted ((id, s) :: strays) ∧
      k.Succeeds ((k.takeNumber.enterRecords id s).reshelve id
        fun r => ((r.insert s).1.remove s.id).1) := by
  have hrecords := h.enterRecords_takeNumber ⟨sh₀, hsh₀, hid₀⟩ hnumber
  have hthins : ∀ sh ∈ (k.takeNumber.enterRecords id s).shelves, sh.id = id →
      sh.registry.Thins [] ((sh.registry.insert s).1.remove s.id).1 := by
    intro sh hsh hid
    rw [h.shelf_eq hsh hsh₀ (hid.trans hid₀.symm)]
    refine (h.sound sh₀ hsh₀).thins_insert_remove (h.get?_next hnumber hsh₀) ?_ hfind
    rw [(h.readable sh₀ hsh₀).2]
    exact hread
  have hout := hrecords.reshelve (fun r => ((r.insert s).1.remove s.id).1) ⟨sh₀, hsh₀, hid₀⟩ hthins
  refine ⟨hout, ⟨Nat.le_succ _, fun ht => .inl ?_⟩⟩
  exact holds_of_holds_reshelve (k := k.takeNumber.enterRecords id s) _ hthins ht

/-- What is held after a subscription was entered is that subscription or was held before. -/
theorem Accounted.succeeds_enter (h : k.Accounted strays) (hsh₀ : sh₀ ∈ k.shelves)
    (hid₀ : sh₀.id = id) (hnumber : s.id = k.next)
    (hfind : (sh₀.registry.ofClient s.client).find? s.sameFilter = none) :
    k.Succeeds ((k.takeNumber.enterRecords id s).reshelve id fun r => (r.insert s).1) := by
  have hrecords := h.enterRecords_takeNumber ⟨sh₀, hsh₀, hid₀⟩ hnumber
  have hfresh := h.get?_next hnumber hsh₀
  refine ⟨Nat.le_succ _, ?_⟩
  intro j t ht
  rcases (hrecords.holds_insert_iff hsh₀ hid₀ hfresh hfind).mp ht with ⟨-, rfl⟩ | hold
  · exact .inr (Nat.le_of_eq hnumber.symm)
  · exact .inl hold

end Entering

end Books

namespace Broker

variable {b : Broker} {id : DestinationId} {s : Subscription} {ctx : Context}

/-! ## Requests -/

theorem destination?_of_requireStarted {d : Destination} (h : b.requireStarted id = .ok d) :
    b.destination? id = some d ∧ d.started = true := by
  obtain ⟨d', hd', hrest⟩ := Except.exists_of_bind_eq_ok h
  obtain ⟨_, hstarted, hsame⟩ := Except.exists_of_bind_eq_ok hrest
  cases hsame
  unfold requireDestination at hd'
  unfold Destination.requireStarted at hstarted
  constructor
  · split at hd'
    next heq =>
      cases hd'
      exact heq
    next => cases hd'
  · split at hstarted
    next heq => exact heq
    next => cases hstarted

theorem parsedWith_of_checkFilter {env : Environment} {d : Destination}
    {principal : Option Principal} {text : Option String} {filter : Option Subtopic}
    (h : checkFilter env d principal text = .ok filter) {t : Subtopic} (ht : filter = some t) :
    t.ParsedWith d.settings.separator := by
  cases text with
  | none =>
    cases h
    cases ht
  | some text =>
    obtain ⟨t', hparse, hrest⟩ := Except.exists_of_bind_eq_ok h
    obtain ⟨_, -, hsame⟩ := Except.exists_of_bind_eq_ok hrest
    cases hsame
    cases ht
    unfold Destination.parseFilter at hparse
    dsimp only at hparse
    split at hparse
    · cases hparse
    · obtain ⟨t', hread, hrest⟩ := Except.exists_of_bind_eq_ok hparse
      split at hrest
      · cases hrest
      · cases hrest
        exact ⟨text, Except.ok_of_mapError_eq_ok hread⟩

theorem books_authorize (env : Environment) (access : Access) (d : Destination)
    (principal : Option Principal) (b : Broker) :
    (authorize env access d principal b).1.books = b.books := by
  unfold authorize
  split
  · rfl
  · split
    · rfl
    · split
      · rfl
      · dsimp only
        split <;> rfl

/-- Checking a request changes nothing in the books, and a request that passes is for a
started destination and has a filter that was read with its separator. -/
theorem checkRequest_spec (env : Environment) (r : SubscribeRequest) (b : Broker) :
    (checkRequest env r b).1.books = b.books ∧
      ∀ filter, (checkRequest env r b).2 = .ok filter →
        ∃ sh ∈ b.books.shelves, sh.id = r.destination ∧ sh.started = true ∧
          ∀ t, filter = some t → t.ParsedWith sh.separator := by
  unfold checkRequest
  cases hstarted : b.requireStarted r.destination with
  | error e => exact ⟨rfl, nofun⟩
  | ok d =>
    obtain ⟨hd, hon⟩ := destination?_of_requireStarted hstarted
    obtain ⟨hmem, hid⟩ := mem_of_destination? hd
    have hbooks := books_authorize env .subscribe d (b.principal? r.client) b
    dsimp only
    split
    next b₁ e heq =>
      rw [heq] at hbooks
      exact ⟨hbooks, nofun⟩
    next b₁ heq =>
      rw [heq] at hbooks
      split
      · exact ⟨hbooks, nofun⟩
      next filter hfilter =>
        split
        · exact ⟨hbooks, nofun⟩
        · refine ⟨hbooks, ?_⟩
          intro filter' hsame
          cases hsame
          refine ⟨d.shelf, List.mem_map_of_mem hmem, hid, hon, ?_⟩
          exact fun t ht => parsedWith_of_checkFilter hfilter ht

/-! ## Beginning a session -/

theorem contains_books_sessions (b : Broker) (c : ClientId) :
    b.books.sessions.contains c = b.sessions.contains c := by
  rw [ExtTreeMap.contains_eq_isSome_getElem?, ExtTreeMap.contains_eq_isSome_getElem?,
    getElem?_books_sessions, Option.isSome_map]

theorem books_beginSession (c : ClientId) (session : Session)
    (hempty : session.subscriptions = ∅) (b : Broker) :
    ({ b with
        sessions := b.sessions.insert c session
        sessionGauge := b.sessionGauge.inc } : Broker).books = b.books.openSession c := by
  have hsessions : (b.sessions.insert c session).map (fun _ s => s.subscriptions) =
      b.books.sessions.insert c ∅ := by
    ext1 c'
    rw [ExtTreeMap.getElem?_map, Maps.getElem?_insert_ite, Maps.getElem?_insert_ite,
      getElem?_books_sessions]
    split
    · rw [Option.map_some, hempty]
    · rfl
  rw [books, hsessions]
  rfl

theorem keeps_connectIn (hctx : ctx.Keeps) (c : ClientId) (b : Broker) :
    Keeps b (connectIn ctx c b).1 := by
  unfold connectIn
  cases hc : b.sessions[c]? with
  | some session => exact .refl b
  | none =>
    refine Carries.trans ?_ (keeps_notify hctx _ _)
    intro strays hb
    have hnone : b.books.sessions[c]? = none := by
      rw [getElem?_books_sessions, hc]
      rfl
    rw [books_beginSession c (Session.begin ctx.env.now) rfl]
    exact ⟨hb.openSession hnone, ⟨rfl, rfl, fun ht => ht⟩⟩

/-! ## Entering a subscription -/

variable {d : Destination}

theorem enter_of_existing (hd : b.destination? s.destination = some d) {old : Subscription}
    (hfind : (d.registry.ofClient s.client).find? s.sameFilter = some old) :
    enter s b = (b, ⟨old, true, false⟩) := by
  unfold enter
  rw [hd]
  dsimp only
  rw [Registry.insert_of_existing hfind]
  rfl

theorem enter_of_new (hd : b.destination? s.destination = some d)
    (hfind : (d.registry.ofClient s.client).find? s.sameFilter = none) :
    (enter s b).2.existing = false ∧
      (enter s b).1.books =
        (b.books.enterRecords s.destination s).reshelve s.destination
          fun _ => (d.registry.insert s).1 := by
  have hnew : (d.registry.insert s).2.existing = false := by rw [Registry.insert_of_new hfind]
  obtain ⟨-, hid⟩ := mem_of_destination? hd
  unfold enter
  rw [hd]
  dsimp only
  rw [hnew, if_neg Bool.false_ne_true, hid]
  refine ⟨hnew, ?_⟩
  let b₁ := b.onDestination s.destination fun d' => { d' with registry := (d.registry.insert s).1 }
  let b₂ : Broker := { b₁ with owners := b₁.owners.insert s.id s.destination }
  let b₃ := b₂.onSession s.client fun session =>
    { session with subscriptions := session.subscriptions.insert s.id s.destination }
  let b₄ := b₃.onTotals s.destination fun t => { t with subscriptions := t.subscriptions.inc }
  have h₁ : b₁.books = b.books.reshelve s.destination fun _ => (d.registry.insert s).1 :=
    books_onDestination_registry fun _ => (d.registry.insert s).1
  have h₃ : b₃.books = b₂.books.onListing s.client (·.insert s.id s.destination) :=
    books_onSession fun _ => rfl
  have h₄ : b₄.books = b₃.books.onCount s.destination (· + 1) := books_onTotals fun _ => rfl
  have h₂ : b₂.books = { b₁.books with owners := b₁.books.owners.insert s.id s.destination } := rfl
  show { b₄.books with subscriptionCount := b₄.books.subscriptionCount + 1 } = _
  rw [h₄, h₃, h₂, h₁]
  rfl

/-- A subscription that was entered for a client with a session is not dropped. -/
theorem dropOrphan_of_contains (hlive : b.sessions.contains s.client = true) :
    dropOrphan ctx s b = b := by
  unfold dropOrphan
  rw [if_pos hlive]

theorem dropOrphan_of_not_contains (hgone : b.sessions.contains s.client = false) :
    dropOrphan ctx s b =
      ((takeOut s.destination (takeOne s.id) b).2.map (·.subscription)).foldl
        (detach ctx s.destination .disconnect) (takeOut s.destination (takeOne s.id) b).1 := by
  unfold dropOrphan
  rw [hgone, if_neg Bool.false_ne_true]
  rfl

theorem takeOut_of_some {take : Registry → Registry × List Removed}
    (hd : b.destination? id = some d) :
    (takeOut id take b).2 = (take d.registry).2 ∧
      (takeOut id take b).1.books = b.books.reshelve id fun _ => (take d.registry).1 := by
  unfold takeOut
  rw [hd]
  exact ⟨rfl, books_onDestination_registry fun _ => (take d.registry).1⟩

theorem keeps_introduce (hctx : ctx.Keeps) (s : Subscription) (b : Broker) :
    Keeps (dropOrphan ctx s b) (introduce ctx s b).1 := by
  have hannounce := keeps_announce hctx s.destination (dropOrphan ctx s b)
  unfold introduce
  dsimp only
  split
  · exact hannounce
  · have hnotify := hannounce.trans (keeps_notify hctx (.subscribed s) _)
    split
    · exact hnotify
    · exact hnotify

theorem exists_destination?_of_shelf {strays : Strays} (hb : b.books.Accounted strays) {sh : Shelf}
    (hsh : sh ∈ b.books.shelves) : ∃ d, b.destination? sh.id = some d ∧ d.shelf = sh := by
  obtain ⟨d, hd⟩ := exists_destination? hsh
  obtain ⟨hmem, hid⟩ := mem_of_destination? hd
  exact ⟨d, hd, hb.shelf_eq (List.mem_map_of_mem hmem) hsh hid⟩

/-- The books once a subscription that is new was entered under the next number. -/
theorem books_enter {strays : Strays} (hb : b.books.Accounted strays)
    (hd : b.destination? s.destination = some d)
    (hfind : (d.registry.ofClient s.client).find? s.sameFilter = none) :
    (enter s { b with nextSubscription := b.nextSubscription + 1 }).1.books =
      (b.books.takeNumber.enterRecords s.destination s).reshelve s.destination
        fun r => (r.insert s).1 := by
  obtain ⟨hmem, hid⟩ := mem_of_destination? hd
  have hd₀ : ({ b with nextSubscription := b.nextSubscription + 1 } : Broker).destination?
      s.destination = some d := hd
  rw [(enter_of_new hd₀ hfind).2]
  apply Books.reshelve_congr
  intro sh hsh hshid
  rw [hb.shelf_eq hsh (List.mem_map_of_mem hmem) (hshid.trans hid.symm)]
  rfl

/-- Enters a subscription and tells of it, if it is new. -/
def enterAndTell (ctx : Context) (s : Subscription) (b : Broker) :
    Broker × Except BrokerError SubscriptionId :=
  let (b, entered) := enter s b
  if entered.existing then (b, .ok entered.subscription.id) else introduce ctx s b

section Telling

variable {strays : Strays} {b₀ : Broker}

/-- The destination of a shelf whose registry was changed has the changed registry. -/
theorem exists_destination?_of_reshelve {k : Books} {change : Registry → Registry} {r : Registry}
    (hbooks : b.books = k.reshelve id change) (hsome : ∃ sh ∈ k.shelves, sh.id = id)
    (hone : ∀ sh ∈ k.shelves, sh.id = id → sh.registry = r) :
    ∃ d, b.destination? id = some d ∧ d.registry = change r := by
  have hname : id ∈ b.books.shelves.map (·.id) := by
    rw [hbooks, Books.map_id_reshelve]
    exact List.mem_map.mpr hsome
  obtain ⟨sh, hsh, rfl⟩ := List.mem_map.mp hname
  obtain ⟨d, hd⟩ := exists_destination? hsh
  obtain ⟨hmem, hid⟩ := mem_of_destination? hd
  have hshelf : d.shelf ∈ b.books.shelves := List.mem_map_of_mem hmem
  rw [hbooks] at hshelf
  obtain ⟨old, hold, hchanged⟩ := Books.mem_onShelf.mp hshelf
  have holdid : old.id = sh.id := by
    have hsame := congrArg Shelf.id hchanged
    split at hsame
    next heq => exact heq
    next => exact hsame.trans hid
  rw [if_pos holdid] at hchanged
  refine ⟨d, hd, ?_⟩
  rw [← hone old hold holdid]
  exact (congrArg Shelf.registry hchanged).symm

/-- What is left to clean up after a subscription was entered, if its client has no session
any more, is the subscription itself. -/
theorem takeOut_enter (hb₀ : b₀.books.Accounted strays)
    (hentered : b.books =
      (b₀.books.takeNumber.enterRecords s.destination s).reshelve s.destination
        fun r => (r.insert s).1)
    (hd : b₀.destination? s.destination = some d)
    (hfind : (d.registry.ofClient s.client).find? s.sameFilter = none) :
    (takeOut s.destination (takeOne s.id) b).2.map (·.subscription) = [s] ∧
      (takeOut s.destination (takeOne s.id) b).1.books =
        (b₀.books.takeNumber.enterRecords s.destination s).reshelve s.destination
          fun r => ((r.insert s).1.remove s.id).1 := by
  obtain ⟨hmem, hid⟩ := mem_of_destination? hd
  have hshelf : d.shelf ∈ b₀.books.shelves := List.mem_map_of_mem hmem
  have hself : (d.registry.insert s).1.get? s.id = some s := by
    rw [Registry.get?_insert_of_new hfind, if_pos rfl]
  have honly (sh : Shelf) (hsh : sh ∈ b₀.books.shelves) (hshid : sh.id = s.destination) :
      sh.registry = d.registry := by
    rw [hb₀.shelf_eq hsh hshelf (hshid.trans hid.symm)]
    rfl
  obtain ⟨d₁, hd₁, hregistry⟩ :=
    exists_destination?_of_reshelve hentered ⟨d.shelf, hshelf, hid⟩ honly
  obtain ⟨hremoved, hbooks⟩ := takeOut_of_some hd₁
  rw [hregistry] at hremoved hbooks
  constructor
  · rw [hremoved, takeOne, Registry.remove_of_some hself]
    rfl
  · rw [hbooks, hentered, Books.reshelve_reshelve]
    apply Books.reshelve_congr
    intro sh hsh hshid
    rw [honly sh hsh hshid]
    rfl

/-- Whether or not its client still has a session, the books are in order once a
subscription was entered and, if need be, taken out again. -/
theorem accounted_dropOrphan (hctx : ctx.Keeps) (hb₀ : b₀.books.Accounted strays)
    (hnumber : s.id = b₀.books.next) (hd : b₀.destination? s.destination = some d)
    (hstarted : d.started = true) (hread : s.ReadWith d.settings.separator)
    (hfind : (d.registry.ofClient s.client).find? s.sameFilter = none)
    (hentered : b.books =
      (b₀.books.takeNumber.enterRecords s.destination s).reshelve s.destination
        fun r => (r.insert s).1) :
    (dropOrphan ctx s b).books.Accounted strays ∧
      b₀.books.Succeeds (dropOrphan ctx s b).books := by
  obtain ⟨hmem, hid⟩ := mem_of_destination? hd
  have hsh : d.shelf ∈ b₀.books.shelves := List.mem_map_of_mem hmem
  have hsessions : b.sessions.contains s.client = b₀.books.sessions.contains s.client := by
    rw [← contains_books_sessions, hentered]
    exact Books.contains_sessions_onListing
  cases hlive : b₀.books.sessions.contains s.client with
  | true =>
    rw [dropOrphan_of_contains (hsessions.trans hlive), hentered]
    exact ⟨hb₀.enter hsh hid hstarted rfl hnumber hread hfind hlive,
      hb₀.succeeds_enter hsh hid hnumber hfind⟩
  | false =>
    rw [dropOrphan_of_not_contains (hsessions.trans hlive)]
    obtain ⟨hremoved, htaken⟩ := takeOut_enter hb₀ hentered hd hfind
    obtain ⟨hstray, hsucceeds⟩ := hb₀.enter_remove hsh hid hnumber hread hfind
    rw [← htaken] at hstray hsucceeds
    obtain ⟨hclean, hshrinks⟩ := carries_foldl_detach hctx s.destination .disconnect [s]
      (takeOut s.destination (takeOne s.id) b).1 strays hstray
    rw [hremoved]
    exact ⟨hclean, hsucceeds.trans hshrinks.succeeds⟩

/-- Entering a subscription under the next number and telling of it keeps the books in
order, whether or not its client still has a session. -/
theorem accounted_enterAndTell (hctx : ctx.Keeps) (hb : b.books.Accounted strays)
    (hnumber : s.id = b.nextSubscription)
    (hchecked : ∃ sh ∈ b.books.shelves, sh.id = s.destination ∧ sh.started = true ∧
      s.ReadWith sh.separator) :
    (enterAndTell ctx s { b with nextSubscription := b.nextSubscription + 1 }).1.books.Accounted
        strays ∧
      b.books.Succeeds
        (enterAndTell ctx s { b with nextSubscription := b.nextSubscription + 1 }).1.books := by
  obtain ⟨sh, hsh, hid, hstarted, hread⟩ := hchecked
  obtain ⟨d, hd, rfl⟩ := exists_destination?_of_shelf hb hsh
  rw [hid] at hd
  let b₀ : Broker := { b with nextSubscription := b.nextSubscription + 1 }
  have hd₀ : b₀.destination? s.destination = some d := hd
  show (enterAndTell ctx s b₀).1.books.Accounted _ ∧
    b.books.Succeeds (enterAndTell ctx s b₀).1.books
  unfold enterAndTell
  cases hfind : (d.registry.ofClient s.client).find? s.sameFilter with
  | some old =>
    rw [enter_of_existing hd₀ hfind]
    exact ⟨hb.takeNumber, ⟨Nat.le_succ _, fun ht => .inl ht⟩⟩
  | none =>
    have hinserted : (enter s b₀).1.books = _ := books_enter hb hd hfind
    dsimp only
    rw [(enter_of_new hd₀ hfind).1, if_neg Bool.false_ne_true]
    generalize (enter s b₀).1 = b₁ at hinserted ⊢
    have hdropped := accounted_dropOrphan hctx hb hnumber hd hstarted hread hfind hinserted
    obtain ⟨hintroduced, hshrinks⟩ := keeps_introduce hctx s b₁ strays hdropped.1
    exact ⟨hintroduced, hdropped.2.trans hshrinks.succeeds⟩

end Telling

end Broker

end MessageBroker
