/-
# Books in order

The books of a broker are in order when all records of subscriptions and sessions agree.
While subscriptions are being ended they do not agree entirely: a subscription leaves its
registry first, and its other records are struck afterwards, one subscription after the
other, with handlers and other nodes called in between. So the agreement is stated for
books with strays, the subscriptions that are out of their registry and still counted.
Without strays the agreement is complete.

Each change that is made to the books keeps them in order. Some of them take strays on and
one gets rid of a stray.
-/

import Mathlib.Algebra.Ring.Int.Defs
import MessageBroker.Proofs.Broker.Books

open Std

namespace MessageBroker

/-- Subscriptions that are out of their registries and still counted there. -/
abbrev Strays := List (DestinationId × Subscription)

namespace Strays

/-- How many strays a destination has. -/
def countAt (strays : Strays) (id : DestinationId) : Nat :=
  strays.countP fun stray => stray.1 = id

theorem countAt_cons (id j : DestinationId) (s : Subscription) (strays : Strays) :
    countAt ((id, s) :: strays) j = countAt strays j + if id = j then 1 else 0 := by
  rw [countAt, List.countP_cons]
  simp [countAt]

theorem countAt_append (id j : DestinationId) (subs : List Subscription) (strays : Strays) :
    countAt (subs.map (fun s => (id, s)) ++ strays) j =
      (if id = j then subs.length else 0) + countAt strays j := by
  rw [countAt, List.countP_append, List.countP_map]
  congr 1
  by_cases h : id = j
  · rw [if_pos h, List.countP_eq_length]
    intro s _
    exact decide_eq_true h
  · rw [if_neg h, List.countP_eq_zero]
    intro s _
    exact fun hs => h (of_decide_eq_true hs)

end Strays

/-- The registry of a shelf is in order, and empty unless the destination is started. -/
structure Shelf.InOrder (sh : Shelf) : Prop where
  sound : sh.registry.Sound
  readable : sh.registry.Readable
  separator : sh.registry.separator = sh.separator
  idle : sh.started = false → sh.registry.size = 0

namespace Books

/-- The books agree, apart from strays. -/
structure Accounted (strays : Strays) (k : Books) : Prop where
  ids : (k.shelves.map (·.id)).Nodup
  sound : ∀ sh ∈ k.shelves, sh.registry.Sound
  readable : ∀ sh ∈ k.shelves, sh.registry.Readable ∧ sh.registry.separator = sh.separator
  home : ∀ {id s}, k.Holds id s → s.destination = id ∧ s.id < k.next
  owned : ∀ {id s}, k.Holds id s → k.owners[s.id]? = some id ∧ k.listed s.client s.id = some id
  stray : ∀ {id s}, (id, s) ∈ strays →
    s.id < k.next ∧ (∃ sh ∈ k.shelves, sh.id = id) ∧ ∀ {j t}, k.Holds j t → t.id ≠ s.id
  owners : ∀ {i : SubscriptionId} {id}, k.owners[i]? = some id →
    ∃ s, s.id = i ∧ (k.Holds id s ∨ (id, s) ∈ strays)
  listings : ∀ {c i id}, k.listed c i = some id →
    ∃ s, s.id = i ∧ s.client = c ∧ (k.Holds id s ∨ (id, s) ∈ strays)
  counters : k.counts.map Prod.fst = k.shelves.map (·.id)
  counts : ∀ sh ∈ k.shelves, ∀ n : Int, (sh.id, n) ∈ k.counts →
    n = sh.registry.size + strays.countAt sh.id
  total : k.subscriptionCount = (k.counts.map Prod.snd).sum
  sessions : k.sessionCount = k.sessions.size
  idle : ∀ sh ∈ k.shelves, sh.started = false → sh.registry.size = 0

variable {k : Books} {strays : Strays} {id j : DestinationId} {s t : Subscription} {c : ClientId}

/-- Two shelves of one name are the same. -/
theorem Accounted.shelf_eq (h : k.Accounted strays) {sh sh' : Shelf} (hsh : sh ∈ k.shelves)
    (hsh' : sh' ∈ k.shelves) (hid : sh.id = sh'.id) : sh = sh' := by
  obtain ⟨i, hi⟩ := List.getElem?_of_mem hsh
  obtain ⟨j, hj⟩ := List.getElem?_of_mem hsh'
  have hlt : i < (k.shelves.map (·.id)).length := by
    rw [List.length_map]
    exact (List.getElem?_eq_some_iff.mp hi).1
  have hindex : i = j := by
    refine (List.getElem?_inj hlt h.ids).mp ?_
    rw [List.getElem?_map, List.getElem?_map, hi, hj, Option.map_some, Option.map_some, hid]
  rw [hindex, hj] at hi
  exact (Option.some.inj hi).symm

/-- What is so of a shelf is so of all shelves of its name. -/
theorem Accounted.of_shelf (h : k.Accounted strays) {sh : Shelf} (hsh : sh ∈ k.shelves)
    (hid : sh.id = id) {P : Shelf → Prop} (hP : P sh) : ∀ sh' ∈ k.shelves, sh'.id = id → P sh' := by
  intro sh' hsh' hid'
  rw [h.shelf_eq hsh' hsh (hid'.trans hid.symm)]
  exact hP

/-- A number belongs to one subscription at most, at one destination. -/
theorem Accounted.single (h : k.Accounted strays) (hs : k.Holds id s) (ht : k.Holds j t)
    (hid : s.id = t.id) : id = j ∧ s = t := by
  have howner := (h.owned hs).1
  rw [hid, (h.owned ht).1] at howner
  have hsame : j = id := Option.some.inj howner
  subst hsame
  obtain ⟨sh, hsh, hshid, hget⟩ := hs
  obtain ⟨sh', hsh', hshid', hget'⟩ := ht
  rw [h.shelf_eq hsh hsh' (hshid.trans hshid'.symm), hid, hget'] at hget
  exact ⟨rfl, (Option.some.inj hget).symm⟩

/-- A change of one of several named numbers changes their sum by the same difference. -/
theorem sum_map_change {counts : List (DestinationId × Int)} {change : Int → Int} {n : Int}
    (hnames : (counts.map Prod.fst).Nodup) (hmem : (id, n) ∈ counts) :
    (counts.map fun count => if count.1 = id then change count.2 else count.2).sum =
      (counts.map Prod.snd).sum + (change n - n) := by
  induction counts with
  | nil => cases hmem
  | cons first rest ih =>
    rw [List.map_cons, List.nodup_cons] at hnames
    rw [List.map_cons, List.map_cons, List.sum_cons, List.sum_cons]
    rcases List.mem_cons.mp hmem with hfirst | hrest
    · subst hfirst
      have hrest : rest.map (fun count => if count.1 = id then change count.2 else count.2) =
          rest.map Prod.snd := by
        apply List.map_congr_left
        intro count hcount
        have hne : count.1 ≠ id := fun heq => hnames.1 (List.mem_map.mpr ⟨count, hcount, heq⟩)
        exact if_neg hne
      rw [hrest, if_pos rfl]
      dsimp only
      omega
    · have hne : first.1 ≠ id := fun heq => hnames.1 (List.mem_map.mpr ⟨_, hrest, heq.symm⟩)
      rw [ih hnames.2 hrest, if_neg hne]
      omega

theorem Accounted.sum_onCount (h : k.Accounted strays) (change : Int → Int) {n : Int}
    (hmem : (id, n) ∈ k.counts) :
    ((k.onCount id change).counts.map Prod.snd).sum = k.subscriptionCount + (change n - n) := by
  rw [h.total, onCount, List.map_map]
  exact sum_map_change (h.counters ▸ h.ids) hmem

theorem map_fst_onCount {change : Int → Int} :
    (k.onCount id change).counts.map Prod.fst = k.counts.map Prod.fst := by
  rw [onCount, List.map_map]
  rfl

theorem mem_onCount {change : Int → Int} {n : Int} :
    (j, n) ∈ (k.onCount id change).counts ↔
      ∃ m, (j, m) ∈ k.counts ∧ n = if j = id then change m else m := by
  rw [onCount, List.mem_map]
  constructor
  · rintro ⟨⟨i, m⟩, hm, heq⟩
    cases heq
    exact ⟨m, hm, rfl⟩
  · rintro ⟨m, hm, rfl⟩
    exact ⟨(j, m), hm, rfl⟩

/-- Every destination has a counter. -/
theorem Accounted.exists_count (h : k.Accounted strays) {sh : Shelf} (hsh : sh ∈ k.shelves) :
    ∃ n, (sh.id, n) ∈ k.counts := by
  have hname : sh.id ∈ k.counts.map Prod.fst := by
    rw [h.counters]
    exact List.mem_map_of_mem hsh
  obtain ⟨⟨j, n⟩, hn, rfl⟩ := List.mem_map.mp hname
  exact ⟨n, hn⟩

theorem Accounted.count_nonneg (h : k.Accounted strays) {n : Int} (hn : (j, n) ∈ k.counts) :
    0 ≤ n := by
  have hname : j ∈ k.shelves.map (·.id) := by
    rw [← h.counters]
    exact List.mem_map_of_mem hn
  obtain ⟨sh, hsh, rfl⟩ := List.mem_map.mp hname
  rw [h.counts sh hsh n hn]
  omega

theorem sum_nonneg {counts : List (DestinationId × Int)} (h : ∀ {j n}, (j, n) ∈ counts → 0 ≤ n) :
    0 ≤ (counts.map Prod.snd).sum := by
  induction counts with
  | nil => simp
  | cons first rest ih =>
    have hfirst : 0 ≤ first.2 := h (j := first.1) List.mem_cons_self
    have hrest := ih fun hn => h (List.mem_cons_of_mem _ hn)
    rw [List.map_cons, List.sum_cons]
    omega

/-! ## Changing a shelf -/

theorem Accounted.inOrder (h : k.Accounted strays) {sh : Shelf} (hsh : sh ∈ k.shelves) :
    sh.InOrder :=
  ⟨h.sound sh hsh, (h.readable sh hsh).1, (h.readable sh hsh).2, h.idle sh hsh⟩

/-- What is to be seen to when one shelf changes: that it is in order afterwards, that what
it lost or gained in size the strays gained or lost, that what is held then is on the other
records, that no stray is held, and that no claim is forgotten. -/
theorem Accounted.onShelf (h : k.Accounted strays) {strays' : Strays} {change : Shelf → Shelf}
    (hname : ∀ sh, (change sh).id = sh.id)
    (horder : ∀ sh ∈ k.shelves, sh.id = id → (change sh).InOrder)
    (hsize : ∀ sh ∈ k.shelves,
      (if sh.id = id then change sh else sh).registry.size + strays'.countAt sh.id =
        sh.registry.size + strays.countAt sh.id)
    (hheld : ∀ {j t}, (k.onShelf id change).Holds j t → (t.destination = j ∧ t.id < k.next) ∧
      k.owners[t.id]? = some j ∧ k.listed t.client t.id = some j)
    (hstray : ∀ {j t}, (j, t) ∈ strays' → t.id < k.next ∧ (∃ sh ∈ k.shelves, sh.id = j) ∧
      ∀ {i u}, (k.onShelf id change).Holds i u → u.id ≠ t.id)
    (hclaimed : ∀ {j t}, k.Holds j t ∨ (j, t) ∈ strays →
      (k.onShelf id change).Holds j t ∨ (j, t) ∈ strays') :
    (k.onShelf id change).Accounted strays' := by
  have hids : (k.onShelf id change).shelves.map (·.id) = k.shelves.map (·.id) :=
    map_onShelf _ hname
  have hall : ∀ sh' ∈ (k.onShelf id change).shelves, sh'.InOrder := by
    intro sh' hsh'
    obtain ⟨sh, hsh, rfl⟩ := mem_onShelf.mp hsh'
    split
    next hid => exact horder sh hsh hid
    next => exact h.inOrder hsh
  constructor
  case ids =>
    rw [hids]
    exact h.ids
  case sound => exact fun sh' hsh' => (hall sh' hsh').sound
  case readable => exact fun sh' hsh' => ⟨(hall sh' hsh').readable, (hall sh' hsh').separator⟩
  case home => exact fun ht => (hheld ht).1
  case owned => exact fun ht => (hheld ht).2
  case stray =>
    intro j t ht
    obtain ⟨hnext, ⟨sh, hsh, hid⟩, hnot⟩ := hstray ht
    have hsome : j ∈ (k.onShelf id change).shelves.map (·.id) := by
      rw [hids]
      exact List.mem_map.mpr ⟨sh, hsh, hid⟩
    exact ⟨hnext, List.mem_map.mp hsome, hnot⟩
  case owners =>
    intro i j hi
    obtain ⟨t, ht, hclaim⟩ := h.owners hi
    exact ⟨t, ht, hclaimed hclaim⟩
  case listings =>
    intro c i j hi
    obtain ⟨t, ht, hclient, hclaim⟩ := h.listings hi
    exact ⟨t, ht, hclient, hclaimed hclaim⟩
  case counters => exact h.counters.trans hids.symm
  case counts =>
    intro sh' hsh' n hn
    obtain ⟨sh, hsh, rfl⟩ := mem_onShelf.mp hsh'
    have hid : (if sh.id = id then change sh else sh).id = sh.id := by
      split
      · exact hname sh
      · rfl
    rw [hid] at hn ⊢
    rw [h.counts sh hsh n hn]
    have hsame := hsize sh hsh
    omega
  case total => exact h.total
  case sessions => exact h.sessions
  case idle => exact fun sh' hsh' => (hall sh' hsh').idle

/-! ## Taking subscriptions out -/

section Thinning

variable {change : Registry → Registry} {removed : List Subscription}

theorem holds_of_holds_reshelve (change : Registry → Registry)
    (hthins : ∀ sh ∈ k.shelves, sh.id = id → sh.registry.Thins removed (change sh.registry))
    (ht : (k.reshelve id change).Holds j t) : k.Holds j t := by
  obtain ⟨sh, hsh, hj, hget⟩ := holds_reshelve.mp ht
  refine ⟨sh, hsh, hj, ?_⟩
  by_cases hid : j = id
  · rw [if_pos hid] at hget
    exact (hthins sh hsh (hj.trans hid)).get?_of_get? hget
  · rw [if_neg hid] at hget
    exact hget

theorem holds_reshelve_or_mem
    (hthins : ∀ sh ∈ k.shelves, sh.id = id → sh.registry.Thins removed (change sh.registry))
    (ht : k.Holds j t) : (k.reshelve id change).Holds j t ∨ (j = id ∧ t ∈ removed) := by
  obtain ⟨sh, hsh, hj, hget⟩ := ht
  by_cases hid : j = id
  · rcases (hthins sh hsh (hj.trans hid)).get?_or_mem hget with hstays | hgone
    · exact .inl (holds_reshelve.mpr ⟨sh, hsh, hj, by rw [if_pos hid]; exact hstays⟩)
    · exact .inr ⟨hid, hgone⟩
  · exact .inl (holds_reshelve.mpr ⟨sh, hsh, hj, by rw [if_neg hid]; exact hget⟩)

/-- Subscriptions that are taken out of a registry become strays. -/
theorem Accounted.reshelve (h : k.Accounted strays) (change : Registry → Registry)
    (hsome : ∃ sh ∈ k.shelves, sh.id = id)
    (hthins : ∀ sh ∈ k.shelves, sh.id = id → sh.registry.Thins removed (change sh.registry)) :
    (k.reshelve id change).Accounted (removed.map (fun s => (id, s)) ++ strays) := by
  obtain ⟨sh₀, hsh₀, hid₀⟩ := hsome
  have hheld {t : Subscription} (ht : t ∈ removed) : k.Holds id t :=
    ⟨sh₀, hsh₀, hid₀, (hthins sh₀ hsh₀ hid₀).held t ht⟩
  apply h.onShelf
  case hname => exact fun _ => rfl
  case horder =>
    intro sh hsh hid
    have hold := h.inOrder hsh
    refine ⟨(hthins sh hsh hid).sound, (hthins sh hsh hid).readable hold.readable,
      (hthins sh hsh hid).separator.trans hold.separator, ?_⟩
    intro hstarted
    have hsize := (hthins sh hsh hid).size
    rw [hold.idle hstarted] at hsize
    exact (Nat.add_eq_zero_iff.mp hsize).1
  case hsize =>
    intro sh hsh
    rw [Strays.countAt_append]
    by_cases hid : sh.id = id
    · have hsize := (hthins sh hsh hid).size
      rw [if_pos hid, if_pos hid.symm]
      dsimp only
      omega
    · rw [if_neg hid, if_neg (Ne.symm hid), Nat.zero_add]
  case hheld =>
    intro j t ht
    have hold := holds_of_holds_reshelve change hthins ht
    exact ⟨h.home hold, h.owned hold⟩
  case hstray =>
    intro j s hs
    rcases List.mem_append.mp hs with hs | hs
    · obtain ⟨t, ht, heq⟩ := List.mem_map.mp hs
      cases heq
      refine ⟨(h.home (hheld ht)).2, ⟨sh₀, hsh₀, hid₀⟩, ?_⟩
      intro j u hu hsame
      obtain ⟨rfl, rfl⟩ := h.single (holds_of_holds_reshelve change hthins hu) (hheld ht) hsame
      obtain ⟨sh, hsh, hj, hget⟩ := holds_reshelve.mp hu
      rw [if_pos rfl, (hthins sh hsh hj).get?_of_mem ht] at hget
      cases hget
    · obtain ⟨hnext, hplace, hnot⟩ := h.stray hs
      exact ⟨hnext, hplace, fun ht => hnot (holds_of_holds_reshelve change hthins ht)⟩
  case hclaimed =>
    intro j t ht
    rcases ht with ht | ht
    · rcases holds_reshelve_or_mem hthins ht with hstays | hgone
      · exact .inl hstays
      · obtain ⟨rfl, hgone⟩ := hgone
        exact .inr (List.mem_append_left _ (List.mem_map_of_mem hgone))
    · exact .inr (List.mem_append_right _ ht)

end Thinning

/-! ## Striking strays -/

/-- Strikes all records of a subscription but its registry. -/
def strike (k : Books) (id : DestinationId) (s : Subscription) : Books :=
  { (k.onListing s.client (·.erase s.id)).onCount id fun n => max (n - 1) 0 with
    owners := k.owners.erase s.id
    subscriptionCount := max (k.subscriptionCount - 1) 0 }

theorem listed_strike {i : SubscriptionId} :
    (k.strike id s).listed c i =
      if s.client = c ∧ s.id = i then none else k.listed c i := by
  refine (listed_onListing (k := k) (c := s.client)).trans ?_
  by_cases hclient : s.client = c
  · subst hclient
    rw [if_pos rfl, listed]
    cases k.sessions[s.client]? with
    | none => simp
    | some listing => simp [Maps.getElem?_erase_ite]
  · simp [hclient]

/-- Counters that do not go below zero still add up to the total, since a stray counts. -/
theorem Accounted.total_strike (h : k.Accounted ((id, s) :: strays)) :
    (k.strike id s).subscriptionCount = ((k.strike id s).counts.map Prod.snd).sum := by
  obtain ⟨-, ⟨sh₀, hsh₀, hid₀⟩, -⟩ := h.stray List.mem_cons_self
  obtain ⟨n₀, hn₀⟩ := h.exists_count hsh₀
  have hcount := h.counts sh₀ hsh₀ n₀ hn₀
  rw [Strays.countAt_cons, if_pos hid₀.symm] at hcount
  have hsum := h.sum_onCount (fun n => max (n - 1) 0) (hid₀ ▸ hn₀)
  have hnonneg : 0 ≤ ((k.onCount id fun n => max (n - 1) 0).counts.map Prod.snd).sum := by
    refine sum_nonneg fun hn => ?_
    obtain ⟨m, hm, rfl⟩ := mem_onCount.mp hn
    split
    · exact Int.le_max_right _ _
    · exact h.count_nonneg hm
  show max (k.subscriptionCount - 1) 0 =
    ((k.onCount id fun n => max (n - 1) 0).counts.map Prod.snd).sum
  omega

/-- A stray whose records are struck is gone. -/
theorem Accounted.strike (h : k.Accounted ((id, s) :: strays)) :
    (k.strike id s).Accounted strays := by
  obtain ⟨-, -, hnot⟩ := h.stray List.mem_cons_self
  have hclaimed {j : DestinationId} {t : Subscription} (hne : ¬(t.client = s.client ∧ t.id = s.id))
      (ht : k.Holds j t ∨ (j, t) ∈ (id, s) :: strays) : k.Holds j t ∨ (j, t) ∈ strays := by
    refine ht.imp_right fun ht => (List.mem_cons.mp ht).resolve_left ?_
    intro heq
    cases heq
    exact hne ⟨rfl, rfl⟩
  have hcounts : (k.strike id s).counts = (k.onCount id fun n => max (n - 1) 0).counts := rfl
  constructor
  case ids => exact h.ids
  case sound => exact h.sound
  case readable => exact h.readable
  case home => exact h.home
  case owned =>
    intro j t ht
    have hne : s.id ≠ t.id := fun heq => hnot ht heq.symm
    constructor
    · show (k.owners.erase s.id)[t.id]? = _
      rw [Maps.getElem?_erase_ite, if_neg hne]
      exact (h.owned ht).1
    · rw [listed_strike, if_neg fun hboth => hne hboth.2]
      exact (h.owned ht).2
  case stray => exact fun ht => h.stray (List.mem_cons_of_mem _ ht)
  case owners =>
    intro i j hi
    change (k.owners.erase s.id)[i]? = _ at hi
    rw [Maps.getElem?_erase_ite] at hi
    split at hi
    next => cases hi
    next hne =>
      obtain ⟨t, rfl, ht⟩ := h.owners hi
      exact ⟨t, rfl, hclaimed (fun hboth => hne hboth.2.symm) ht⟩
  case listings =>
    intro c i j hi
    rw [listed_strike] at hi
    split at hi
    next => cases hi
    next hne =>
      obtain ⟨t, rfl, rfl, ht⟩ := h.listings hi
      exact ⟨t, rfl, rfl, hclaimed (fun hboth => hne ⟨hboth.1.symm, hboth.2.symm⟩) ht⟩
  case counters =>
    rw [hcounts, map_fst_onCount]
    exact h.counters
  case counts =>
    intro sh hsh n hn
    rw [hcounts] at hn
    obtain ⟨m, hm, rfl⟩ := mem_onCount.mp hn
    have hcount := h.counts sh hsh m hm
    rw [Strays.countAt_cons] at hcount
    split
    next hid =>
      rw [hid, if_pos rfl] at hcount
      rw [hid]
      omega
    next hid =>
      rw [if_neg (Ne.symm hid)] at hcount
      omega
  case total => exact h.total_strike
  case sessions =>
    refine h.sessions.trans ?_
    exact congrArg Nat.cast (size_sessions_onListing (k := k)).symm
  case idle => exact h.idle

/-- Strikes the owner of a number. -/
def disown (k : Books) (i : SubscriptionId) : Books := { k with owners := k.owners.erase i }

theorem Accounted.disown (h : k.Accounted strays) {i : SubscriptionId}
    (hnot : ∀ {j t}, k.Holds j t → t.id ≠ i) : (k.disown i).Accounted strays := by
  refine { h with owned := ?_, owners := ?_ }
  · intro j t ht
    show (k.owners.erase i)[t.id]? = _ ∧ _
    rw [Maps.getElem?_erase_ite, if_neg (Ne.symm (hnot ht))]
    exact h.owned ht
  · intro i' j hi
    change (k.owners.erase i)[i']? = _ at hi
    rw [Maps.getElem?_erase_ite] at hi
    split at hi
    · cases hi
    · exact h.owners hi

/-! ## Sessions -/

/-- A session begins. -/
def openSession (k : Books) (c : ClientId) : Books :=
  { k with sessions := k.sessions.insert c ∅, sessionCount := k.sessionCount + 1 }

/-- A session ends. -/
def closeSession (k : Books) (c : ClientId) : Books :=
  { k with sessions := k.sessions.erase c, sessionCount := max (k.sessionCount - 1) 0 }

theorem Accounted.openSession (h : k.Accounted strays) (hc : k.sessions[c]? = none) :
    (k.openSession c).Accounted strays := by
  have hlisted (c' : ClientId) (i : SubscriptionId) :
      (k.openSession c).listed c' i = k.listed c' i := by
    rw [listed, listed, Books.openSession, Maps.getElem?_insert_ite]
    split
    next heq => simp [← heq, hc]
    next => rfl
  refine { h with owned := ?_, listings := ?_, sessions := ?_ }
  · intro j t ht
    rw [hlisted]
    exact h.owned ht
  · intro c' i j hi
    rw [hlisted] at hi
    exact h.listings hi
  · show k.sessionCount + 1 = (k.sessions.insert c ∅).size
    rw [h.sessions, Maps.size_insert_of_none hc]
    rfl

/-- A session may end when its client has no subscription any more. -/
theorem Accounted.closeSession (h : k.Accounted strays) (hc : c ∈ k.sessions)
    (hnot : ∀ {j t}, k.Holds j t → t.client ≠ c) : (k.closeSession c).Accounted strays := by
  have hlisted (c' : ClientId) (i : SubscriptionId) :
      (k.closeSession c).listed c' i = if c = c' then none else k.listed c' i := by
    rw [listed, listed, Books.closeSession, Maps.getElem?_erase_ite]
    split <;> rfl
  refine { h with owned := ?_, listings := ?_, sessions := ?_ }
  · intro j t ht
    rw [hlisted, if_neg (Ne.symm (hnot ht))]
    exact h.owned ht
  · intro c' i j hi
    rw [hlisted] at hi
    split at hi
    · cases hi
    · exact h.listings hi
  · obtain ⟨listing, hlisting⟩ :=
      Option.isSome_iff_exists.mp (ExtTreeMap.mem_iff_isSome_getElem?.mp hc)
    have hsize := Maps.size_erase_of_some hlisting
    show max (k.sessionCount - 1) 0 = (k.sessions.erase c).size
    rw [h.sessions]
    omega

/-! ## Entering subscriptions -/

/-- Takes the next number. -/
def takeNumber (k : Books) : Books := { k with next := k.next + 1 }

theorem Accounted.takeNumber (h : k.Accounted strays) : k.takeNumber.Accounted strays := by
  refine { h with home := ?_, stray := ?_ }
  · intro j t ht
    exact ⟨(h.home ht).1, Nat.lt_succ_of_lt (h.home ht).2⟩
  · intro j t ht
    obtain ⟨hnext, hrest⟩ := h.stray ht
    exact ⟨Nat.lt_succ_of_lt hnext, hrest⟩

/-- Enters all records of a subscription but its registry. -/
def enterRecords (k : Books) (id : DestinationId) (s : Subscription) : Books :=
  { (k.onListing s.client (·.insert s.id id)).onCount id (· + 1) with
    owners := k.owners.insert s.id id
    subscriptionCount := k.subscriptionCount + 1 }

theorem listed_enterRecords {i : SubscriptionId} :
    (k.enterRecords id s).listed c i =
      if s.client = c ∧ s.id = i then (k.sessions[c]?).map fun _ => id else k.listed c i := by
  refine (listed_onListing (k := k) (c := s.client)).trans ?_
  by_cases hclient : s.client = c
  · subst hclient
    rw [if_pos rfl, listed]
    cases k.sessions[s.client]? with
    | none => simp
    | some listing => simp [Maps.getElem?_insert_ite]
  · simp [hclient]

/-- A subscription whose records are entered is a stray until it is in its registry. -/
theorem Accounted.enterRecords (h : k.Accounted strays) (hsome : ∃ sh ∈ k.shelves, sh.id = id)
    (hnext : s.id < k.next) (hnew : ∀ {j t}, k.Holds j t ∨ (j, t) ∈ strays → t.id ≠ s.id) :
    (k.enterRecords id s).Accounted ((id, s) :: strays) := by
  obtain ⟨sh₀, hsh₀, hid₀⟩ := hsome
  obtain ⟨n₀, hn₀⟩ := h.exists_count hsh₀
  have hcounts : (k.enterRecords id s).counts = (k.onCount id (· + 1)).counts := rfl
  constructor
  case ids => exact h.ids
  case sound => exact h.sound
  case readable => exact h.readable
  case home => exact h.home
  case owned =>
    intro j t ht
    have hne : s.id ≠ t.id := Ne.symm (hnew (.inl ht))
    constructor
    · show (k.owners.insert s.id id)[t.id]? = _
      rw [Maps.getElem?_insert_ite, if_neg hne]
      exact (h.owned ht).1
    · rw [listed_enterRecords, if_neg fun hboth => hne hboth.2]
      exact (h.owned ht).2
  case stray =>
    intro j t ht
    rcases List.mem_cons.mp ht with heq | ht
    · cases heq
      exact ⟨hnext, ⟨sh₀, hsh₀, hid₀⟩, fun hu => hnew (.inl hu)⟩
    · exact h.stray ht
  case owners =>
    intro i j hi
    change (k.owners.insert s.id id)[i]? = _ at hi
    rw [Maps.getElem?_insert_ite] at hi
    split at hi
    next heq =>
      cases hi
      exact ⟨s, heq, .inr List.mem_cons_self⟩
    next =>
      obtain ⟨t, ht, hclaim⟩ := h.owners hi
      exact ⟨t, ht, hclaim.imp_right (List.mem_cons_of_mem _)⟩
  case listings =>
    intro c i j hi
    rw [listed_enterRecords] at hi
    split at hi
    next heq =>
      obtain ⟨listing, -, hj⟩ := Option.map_eq_some_iff.mp hi
      subst hj
      exact ⟨s, heq.2, heq.1, .inr List.mem_cons_self⟩
    next =>
      obtain ⟨t, ht, hclient, hclaim⟩ := h.listings hi
      exact ⟨t, ht, hclient, hclaim.imp_right (List.mem_cons_of_mem _)⟩
  case counters =>
    rw [hcounts, map_fst_onCount]
    exact h.counters
  case counts =>
    intro sh hsh n hn
    rw [hcounts] at hn
    obtain ⟨m, hm, rfl⟩ := mem_onCount.mp hn
    have hcount := h.counts sh hsh m hm
    rw [Strays.countAt_cons]
    split
    next hid =>
      rw [if_pos hid.symm]
      omega
    next hid =>
      rw [if_neg (Ne.symm hid)]
      omega
  case total =>
    have hsum := h.sum_onCount (· + 1) (hid₀ ▸ hn₀)
    rw [hcounts]
    show k.subscriptionCount + 1 = _
    omega
  case sessions =>
    refine h.sessions.trans ?_
    exact congrArg Nat.cast (size_sessions_onListing (k := k)).symm
  case idle => exact h.idle

section Entering

variable {sh₀ : Shelf}

/-- A subscription that is new to its registry is held once it is entered there, next to all
that were held before. -/
theorem Accounted.holds_insert_iff (h : k.Accounted strays) (hsh₀ : sh₀ ∈ k.shelves)
    (hid₀ : sh₀.id = id) (hfresh : sh₀.registry.get? s.id = none)
    (hfind : (sh₀.registry.ofClient s.client).find? s.sameFilter = none) :
    (k.reshelve id fun r => (r.insert s).1).Holds j t ↔ (j = id ∧ t = s) ∨ k.Holds j t := by
  rw [holds_reshelve]
  constructor
  · rintro ⟨sh, hsh, hj, hget⟩
    by_cases hid : j = id
    · rw [if_pos hid, h.shelf_eq hsh hsh₀ (hj.trans (hid.trans hid₀.symm)),
        Registry.get?_insert_of_new hfind] at hget
      split at hget
      · exact .inl ⟨hid, (Option.some.inj hget).symm⟩
      · exact .inr ⟨sh₀, hsh₀, hid₀.trans hid.symm, hget⟩
    · rw [if_neg hid] at hget
      exact .inr ⟨sh, hsh, hj, hget⟩
  · rintro (⟨rfl, rfl⟩ | ⟨sh, hsh, hj, hget⟩)
    · refine ⟨sh₀, hsh₀, hid₀, ?_⟩
      rw [if_pos rfl, Registry.get?_insert_of_new hfind, if_pos rfl]
    · refine ⟨sh, hsh, hj, ?_⟩
      by_cases hid : j = id
      · have hne : s.id ≠ t.id := by
          intro heq
          rw [h.shelf_eq hsh hsh₀ (hj.trans (hid.trans hid₀.symm)), ← heq, hfresh] at hget
          cases hget
        rw [if_pos hid, Registry.get?_insert_of_ne hne]
        exact hget
      · rw [if_neg hid]
        exact hget

/-- A stray on all records is admitted to its registry. -/
theorem Accounted.admit (h : k.Accounted ((id, s) :: strays)) (hhome : s.destination = id)
    (howned : k.owners[s.id]? = some id ∧ k.listed s.client s.id = some id)
    (hnew : ∀ {j t}, (j, t) ∈ strays → t.id ≠ s.id)
    (hsh₀ : sh₀ ∈ k.shelves) (hid₀ : sh₀.id = id) (hstarted : sh₀.started = true)
    (hread : s.ReadWith sh₀.separator) (hfresh : sh₀.registry.get? s.id = none)
    (hfind : (sh₀.registry.ofClient s.client).find? s.sameFilter = none) :
    (k.reshelve id fun r => (r.insert s).1).Accounted strays := by
  have hnext := (h.stray List.mem_cons_self).1
  have honly {sh : Shelf} (hsh : sh ∈ k.shelves) (hid : sh.id = id) : sh = sh₀ :=
    h.shelf_eq hsh hsh₀ (hid.trans hid₀.symm)
  have hholds {j : DestinationId} {t : Subscription} :
      (k.reshelve id fun r => (r.insert s).1).Holds j t ↔ (j = id ∧ t = s) ∨ k.Holds j t :=
    h.holds_insert_iff hsh₀ hid₀ hfresh hfind
  apply h.onShelf
  case hname => exact fun _ => rfl
  case horder =>
    intro sh hsh hid
    rw [honly hsh hid]
    have hold := h.inOrder hsh₀
    refine ⟨hold.sound.insert hfresh, hold.readable.insert ?_,
      (Registry.separator_insert _ _).trans hold.separator, ?_⟩
    · rw [hold.separator]
      exact hread
    · intro hidle
      cases hstarted.symm.trans hidle
  case hsize =>
    intro sh hsh
    rw [Strays.countAt_cons]
    by_cases hid : sh.id = id
    · have hsize : (sh.registry.insert s).1.size = sh.registry.size + 1 := by
        rw [honly hsh hid]
        exact Registry.size_insert_of_new hfind hfresh
      rw [if_pos hid, if_pos hid.symm]
      dsimp only
      omega
    · rw [if_neg hid, if_neg (Ne.symm hid), Nat.add_zero]
  case hheld =>
    intro j t ht
    rcases hholds.mp ht with ⟨rfl, rfl⟩ | ht
    · exact ⟨⟨hhome, hnext⟩, howned⟩
    · exact ⟨h.home ht, h.owned ht⟩
  case hstray =>
    intro j t ht
    obtain ⟨hlt, hplace, hother⟩ := h.stray (List.mem_cons_of_mem _ ht)
    refine ⟨hlt, hplace, ?_⟩
    intro i u hu
    rcases hholds.mp hu with ⟨rfl, rfl⟩ | hu
    · exact Ne.symm (hnew ht)
    · exact hother hu
  case hclaimed =>
    intro j t ht
    rcases ht with ht | ht
    · exact .inl (hholds.mpr (.inr ht))
    · rcases List.mem_cons.mp ht with heq | ht
      · cases heq
        exact .inl (hholds.mpr (.inl ⟨rfl, rfl⟩))
      · exact .inr ht

end Entering

/-! ## Starting and stopping -/

/-- Says whether a destination is started. -/
def setStarted (k : Books) (id : DestinationId) (flag : Bool) : Books :=
  k.onShelf id fun sh => { sh with started := flag }

theorem holds_setStarted {flag : Bool} : (k.setStarted id flag).Holds j t ↔ k.Holds j t := by
  constructor
  · rintro ⟨sh', hsh', hj, hget⟩
    obtain ⟨sh, hsh, rfl⟩ := mem_onShelf.mp hsh'
    refine ⟨sh, hsh, ?_⟩
    split at hj <;> split at hget <;> exact ⟨hj, hget⟩
  · rintro ⟨sh, hsh, hj, hget⟩
    refine ⟨_, mem_onShelf.mpr ⟨sh, hsh, rfl⟩, ?_⟩
    split <;> exact ⟨hj, hget⟩

theorem Accounted.setStarted (h : k.Accounted strays) {flag : Bool}
    (hidle : flag = false → ∀ sh ∈ k.shelves, sh.id = id → sh.registry.size = 0) :
    (k.setStarted id flag).Accounted strays := by
  apply h.onShelf
  case hname => exact fun _ => rfl
  case horder =>
    intro sh hsh hid
    have hold := h.inOrder hsh
    exact ⟨hold.sound, hold.readable, hold.separator, fun hflag => hidle hflag sh hsh hid⟩
  case hsize =>
    intro sh _
    split <;> rfl
  case hheld =>
    intro j t ht
    have hold := holds_setStarted.mp ht
    exact ⟨h.home hold, h.owned hold⟩
  case hstray =>
    intro j t ht
    obtain ⟨hnext, hplace, hnot⟩ := h.stray ht
    exact ⟨hnext, hplace, fun hu => hnot (holds_setStarted.mp hu)⟩
  case hclaimed => exact fun ht => ht.imp_left holds_setStarted.mpr

end Books

end MessageBroker
