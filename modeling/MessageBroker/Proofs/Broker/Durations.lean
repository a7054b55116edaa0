/-
# Configured durations

Three durations are configured in milliseconds or minutes and compared with differences of
times: the age beyond which a message is not delivered, the length of a window of the limiters,
and the time after which an idle subscription is swept. They are in force unchanged throughout a
run, whatever else is reconfigured meanwhile.

The differences of times are taken to fit a signed word of 64 bits. The comparisons differ in
how they come by such a word for the duration. A sweep cuts it at the largest one, which is as
good as exact. The other two let it wrap around, so they are exact for durations that fit a word
themselves. A destination that allows its messages an age of some three hundred million years
finds even the newest of them too old.
-/

import MessageBroker.Proofs.Broker.Entries
import MessageBroker.Proofs.Broker.Evictions
import MessageBroker.Proofs.Broker.Statistics
import MessageBroker.Proofs.Throttle.Rates

open Std

namespace MessageBroker

/-! ## Durations in force -/

namespace Broker

variable {env : Environment} {b b₀ : Broker} {id : DestinationId} {d : Destination}
  {settings : Settings}

/-- Every destination goes by its own settings of a node and by the window that they name. -/
def GoesBy (settings : Settings) (b : Broker) : Prop :=
  ∀ id s, b.sheet? id = some s →
    settings.destinations[id]? = some s.settings ∧ s.window = settings.window

theorem sheet?_resetThrottle {s : Sheet} {id' : DestinationId}
    (hs : (b.resetThrottle id').1.sheet? id = some s) :
    ∃ s', b.sheet? id = some s' ∧ s.settings = s'.settings ∧ s.window = s'.window := by
  rw [resetThrottle] at hs
  split at hs
  · exact ⟨s, hs, rfl, rfl⟩
  · rw [sheet?, destination?_onDestination _ (by exact fun _ => rfl), Option.map_map] at hs
    obtain ⟨d, hd, rfl⟩ := Option.map_eq_some_iff.mp hs
    refine ⟨d.sheet, congrArg (Option.map _) hd, ?_⟩
    rw [Function.comp_apply]
    split
    · exact ⟨rfl, rfl⟩
    · exact ⟨rfl, rfl⟩

/-- No operation changes what a destination goes by. -/
theorem GoesBy.perform (h : GoesBy settings b) (env : Environment) (op : Operation) :
    GoesBy settings (perform env b op).1 := by
  intro id s hs
  by_cases hop : ∀ id, op ≠ .resetThrottle id
  · rw [sheet_perform hop] at hs
    obtain ⟨s', hs', rfl⟩ := Option.map_eq_some_iff.mp hs
    exact h id s' hs'
  · obtain ⟨id', rfl⟩ : ∃ id', op = .resetThrottle id' := by
      by_contra hnone
      exact hop fun id' heq => hnone ⟨id', heq⟩
    obtain ⟨s', hs', hsettings, hwindow⟩ := sheet?_resetThrottle hs
    rw [hsettings, hwindow]
    exact h id s' hs'

theorem GoesBy.run (h : GoesBy settings b) (steps : List (Environment × Operation)) :
    GoesBy settings (b.run steps) := by
  induction steps generalizing b with
  | nil => exact h
  | cons step steps ih => exact ih (h.perform step.1 step.2)

/-- A destination goes by what is configured for it throughout a run. -/
theorem goesBy_run (hbuilt : b₀.IsBuilt) (steps : List (Environment × Operation)) :
    GoesBy b₀.settings (b₀.run steps) := by
  have hblank : GoesBy b₀.settings b₀ := fun id s hs =>
    ⟨(hbuilt.sheet hs).1, (hbuilt.sheet hs).2.1⟩
  exact hblank.run steps

end Broker

/-! ## Ages of messages -/

/-- Whether a message of an age is too old for a destination. -/
def DestinationSettings.IsStale (s : DestinationSettings) (age : Int) : Prop :=
  s.messageTtl.ms ≠ 0 ∧ (s.messageTtl.ms : Int) < age

instance (s : DestinationSettings) (age : Int) : Decidable (s.IsStale age) :=
  inferInstanceAs (Decidable (_ ∧ _))

namespace Broker

variable {env : Environment} {b b' : Broker} {d : Destination} {m : Message} {l : Limiter}

theorem isExpired_iff (hlt : d.settings.messageTtl.ms < 2 ^ 63) {now : Timestamp}
    (hfits : Timestamp.Fits now m.timestamp) :
    isExpired d m now = true ↔ d.settings.IsStale (now - m.timestamp) := by
  rw [isExpired, DestinationSettings.messageTtl?, Span.isZero, DestinationSettings.IsStale,
    Timestamp.since_of_fits hfits]
  by_cases hzero : d.settings.messageTtl.ms = 0
  · simp [hzero]
  · simp [hzero, Span.signedMs_of_lt _ (by omega)]

theorem Meets.expired_iff {gone : List ClientId} {c : ClientId} {requested : Option Nat}
    {fate : Fate} {l' : Limiter} (h : Meets env d m gone l c requested fate l') :
    fate = .expired ↔ isExpired d m env.now = true := by
  cases h with
  | expired h => exact iff_of_true rfl h
  | throttled hfresh | delivered hfresh | failed hfresh =>
    exact iff_of_false nofun (Bool.eq_false_iff.mp hfresh)

theorem Fates.expired_iff {gone : List ClientId} {rs : List Recipient}
    (h : Fates env d m gone l rs) :
    ∀ r ∈ rs, r.fate = .expired ↔ isExpired d m env.now = true := by
  induction h with
  | nil => exact nofun
  | cons hmeets _ ih => exact List.forall_mem_cons.mpr ⟨hmeets.expired_iff, ih⟩

/-- A message expires for all recipients or for none. -/
theorem Fates.count_expired {gone : List ClientId} {rs : List Recipient}
    (h : Fates env d m gone l rs) :
    Recipient.count .expired rs = if isExpired d m env.now then rs.length else 0 := by
  have hiff := h.expired_iff
  rw [Recipient.count]
  split
  next hexpired => exact List.countP_eq_length.mpr fun r hr => by simp [(hiff r hr).mpr hexpired]
  next hfresh => exact List.countP_eq_zero.mpr fun r hr => by simp [mt (hiff r hr).mp hfresh]

/-- Whatever way a message came, it has expired for its recipients exactly if it is stale. -/
theorem expired_of_route (hb : b.IsReachable) (hd : b.destination? m.destination = some d)
    (hlt : d.settings.messageTtl.ms < 2 ^ 63) (hfits : Timestamp.Fits env.now m.timestamp)
    {entry : Entry} {result : RouteResult} (hroute : entry.route env m b = (b', .ok result))
    (houtcome : result.outcome = .delivered) :
    result.expired =
      if d.settings.IsStale (env.now - m.timestamp) then result.recipients else 0 := by
  obtain ⟨d', ts, b₁, propagate, hlocated, hscene, -, hfanout⟩ :=
    reachesFanout_of_route hroute houtcome
  obtain ⟨hd', -, hts⟩ := locate_eq_ok hlocated
  cases hd.symm.trans hd'
  obtain ⟨rs, -, hfans⟩ :=
    fanout_spec hb (aside_context env b) hd hts hscene (entry.only m) propagate
  rw [hfanout] at hfans
  obtain ⟨gone, -, hfates⟩ := hfans.fates
  rw [hfans.tallies.expired, hfans.tallies.recipients, hfates.count_expired]
  exact if_congr (isExpired_iff hlt hfits) rfl rfl

end Broker

/-! ## Windows of limiters -/

/-- A counter that was asked begins a new window if a span has passed, and goes on with the old
one otherwise. -/
def Window.RestartsAfter (span : Span) (now : Timestamp) (admitted : Bool) (w w' : Window) : Prop :=
  if (span.ms : Int) ≤ now - w.start then w'.start = now ∧ w'.count = admitted.toNat
  else w'.start = w.start ∧ w'.count = w.count + admitted.toNat

theorem Window.Asked.restartsAfter {length : Int} {ceiling : Nat} {now : Timestamp}
    {admitted : Bool} {w w' : Window} {span : Span} (h : Asked length ceiling now admitted w w')
    (hlength : length = span.ms) (hfits : Timestamp.Fits now w.start) :
    RestartsAfter span now admitted w w' := by
  obtain ⟨hstart, hcount, -⟩ := h
  have hadmitted : (if admitted then 1 else 0) = admitted.toNat := by cases admitted <;> rfl
  rw [hadmitted] at hcount
  subst hlength
  rw [Window.roll, Timestamp.since_of_fits hfits] at hstart hcount
  rw [RestartsAfter]
  split at hstart
  next hlasted =>
    rw [if_pos hlasted] at hcount ⊢
    exact ⟨hstart, hcount.trans (Nat.zero_add _)⟩
  next hlasts =>
    rw [if_neg hlasts] at hcount ⊢
    exact ⟨hstart, hcount⟩

namespace Limiter

/-- The counters that a check asks begin new windows exactly when the window is over, as long as
the time since its start fits a word. The counter of a client is only asked if that of the
destination has room. -/
structure Restarts (l : Limiter) (d : Direction) (c : ClientId) (requested : Option Nat)
    (now : Timestamp) : Prop where
  destination : l.CountsAll d → Timestamp.Fits now (l.destination.get d).start →
    Window.RestartsAfter l.window now (l.check d c requested now).2.isAllowed
      (l.destination.get d) ((l.check d c requested now).1.destination.get d)
  client : l.CountsEach d requested → Timestamp.Fits now (l.windowOf c d).start →
    Window.RestartsAfter l.window now (l.check d c requested now).2.isAllowed
        (l.windowOf c d) ((l.check d c requested now).1.windowOf c d) ∨
      (l.check d c requested now).2.isAllowed = false ∧
        (l.check d c requested now).1.windowOf c d = l.windowOf c d

theorem restarts_check (l : Limiter) (hlt : l.window.ms < 2 ^ 63) (d : Direction) (c : ClientId)
    (requested : Option Nat) (now : Timestamp) : Restarts l d c requested now := by
  have hchecked := l.checked_check d c requested now
  have hlength := windowLength_eq hlt
  refine ⟨fun hall => (hchecked.destination hall).restartsAfter hlength, fun heach hfits => ?_⟩
  exact (hchecked.windowOf heach).imp_left fun hasked => hasked.restartsAfter hlength hfits

end Limiter

/-! ## All comparisons -/

namespace Broker

variable {b b₀ : Broker} {id : DestinationId} {d : Destination}

/-- The comparisons that a destination makes agree with those of whole numbers wherever the
differences of times fit a signed word of 64 bits. Those of the sweep do so for every timeout; the
others for durations that fit such a word. -/
structure ComparesExactly (b : Broker) (d : Destination) : Prop where
  /-- A message expires for its recipients if and only if there is an age that it exceeds. -/
  expiry : d.settings.messageTtl.ms < 2 ^ 63 →
    ∀ {env : Environment} {m : Message} {entry : Entry} {b' : Broker} {result : RouteResult},
      m.destination = d.id → Timestamp.Fits env.now m.timestamp →
      entry.route env m b = (b', .ok result) → result.outcome = .delivered → result.expired =
        if d.settings.IsStale (env.now - m.timestamp) then result.recipients else 0
  /-- A window begins anew if and only if it has lasted its length. -/
  restart : d.limiter.window.ms < 2 ^ 63 →
    ∀ l : Limiter, l.window = d.limiter.window →
      ∀ direction c requested now, l.Restarts direction c requested now
  /-- A sweep evicts a subscription in its turn if and only if the client is idle. -/
  eviction : ∀ {ctx : Context} {w : Sweeping} {s : Subscription} {now : Timestamp},
    (w.broker.registered? d.id s.id).isSome → Timestamp.Fits now (lastActivity s w.broker) →
      ((sweepStep ctx d now w s).evicted = w.evicted + 1 ↔
        d.settings.IsOverdue (now - lastActivity s w.broker))
  /-- If nobody calls back, that settles which subscriptions are left after a sweep. -/
  sweep : ∀ {env : Environment} {now : Timestamp}, Silent env b →
    (∀ id n s, b.registered? id n = some s → Timestamp.Fits now (lastActivity s b)) →
      ∀ n s, (sweepAt env now b).1.registered? d.id n = some s ↔
        b.registered? d.id n = some s ∧ ¬d.settings.IsOverdue (now - lastActivity s b)

/-- Throughout a run, the destinations of a broker that was built from accepted settings go by
the durations that are configured, and compare them exactly with differences of times. -/
theorem comparesExactly_run (hbuilt : b₀.IsBuilt) (steps : List (Environment × Operation))
    (hd : (b₀.run steps).destination? id = some d) :
    b₀.settings.destinations[id]? = some d.settings ∧
      d.limiter.window = b₀.settings.window ∧ ComparesExactly (b₀.run steps) d := by
  obtain rfl : d.id = id := (mem_of_destination? hd).2
  have hb : (b₀.run steps).IsReachable := ⟨b₀, hbuilt, steps, rfl⟩
  obtain ⟨strays, haccounted⟩ := hb.accounted
  obtain ⟨hsettings, hwindow⟩ := goesBy_run hbuilt steps d.id d.sheet (congrArg (Option.map _) hd)
  refine ⟨hsettings, hwindow, ?_⟩
  constructor
  case expiry =>
    intro hlt env m entry b' result hm hfits
    rw [← hm] at hd
    exact expired_of_route hb hd hlt hfits
  case restart =>
    intro hlt l hl direction c requested now
    rw [← hl] at hlt
    exact l.restarts_check hlt direction c requested now
  case eviction => exact evicted_sweepStep
  case sweep =>
    intro env now hsilent hfits n s
    have hplaces : ∀ id n s, (b₀.run steps).registered? id n = some s → s.id = n :=
      fun _ _ _ hs => id_eq_of_registered? haccounted hs
    rw [registered?_sweepAt hsilent hplaces]
    refine and_congr_right fun hs => not_congr ?_
    rw [hasLapsed_iff_isIdle (hfits _ _ _ hs), IsIdle, hd]
    simp only [Option.map_some, Option.some.injEq, exists_eq_left']

/-- The settings of a node with one destination whose messages live for a number of
milliseconds and whose subscriptions last for a minute without activity. -/
def livingSettings (ms : Nat) : Settings := Settings.standard.addDestination
  { DestinationSettings.standard "news" with messageTtl := ⟨ms⟩, timeoutMinutes := 1 }

theorem comparesExactly_run_living :
    ∃ (b₀ : Broker) (d : Destination), b₀.IsBuilt ∧
      (b₀.run opening).destination? "news" = some d ∧
      d.settings.messageTtl.ms < 2 ^ 63 ∧ d.limiter.window.ms < 2 ^ 63 ∧
      d.settings.IsStale 6 ∧ ¬d.settings.IsStale 5 ∧ d.settings.IsOverdue 60001 ∧
      ComparesExactly (b₀.run opening) d := by
  obtain ⟨b₀, d, hbuilt, hd, hsettings, hwindow⟩ : ∃ (b₀ : Broker) (d : Destination),
      b₀.IsBuilt ∧ (b₀.run opening).destination? "news" = some d ∧
      (d.settings.messageTtl.ms, d.settings.timeoutMinutes) = (5, 1) ∧
      d.limiter.window.ms = 1000 := by
    have hbuilt : IsBuilt _ := ⟨livingSettings 5, _, ⟨true, false, [], []⟩, rfl, rfl⟩
    exact ⟨_, _, hbuilt, rfl, rfl, rfl⟩
  obtain ⟨httl, htimeout⟩ := Prod.mk.inj hsettings
  refine ⟨b₀, d, hbuilt, hd, by omega, by omega, ⟨by omega, by omega⟩, ?_, ⟨by omega, by omega⟩,
    (comparesExactly_run hbuilt opening hd).2.2⟩
  exact fun h => absurd h.2 (by omega)

/-- A message that was sent at this moment expires for its recipient if its destination allows
it an age of two to the power of sixty-three milliseconds. -/
theorem not_forall_expired_of_route :
    ¬∀ (env : Environment) (b b' : Broker) (d : Destination) (m : Message) (entry : Entry)
      (result : RouteResult), b.IsReachable → b.destination? m.destination = some d →
        Timestamp.Fits env.now m.timestamp → entry.route env m b = (b', .ok result) →
        result.outcome = .delivered →
        result.expired =
          if d.settings.IsStale (env.now - m.timestamp) then result.recipients else 0 := by
  intro hexact
  obtain ⟨b, d, hreachable, hd, httl, hroute⟩ : ∃ (b : Broker) (d : Destination), b.IsReachable ∧
      b.destination? "news" = some d ∧ d.settings.messageTtl.ms = 2 ^ 63 ∧
      (Entry.client.route quiet note b).2 = .ok ⟨.delivered, 1, 0, 0, 1, 0, false⟩ := by
    have hbuilt : IsBuilt _ := ⟨livingSettings (2 ^ 63), _, ⟨true, false, [], []⟩, rfl, rfl⟩
    exact ⟨_, _, ⟨_, hbuilt, opening, rfl⟩, rfl, rfl, rfl⟩
  have hrouted : Entry.client.route quiet note b = (_, .ok _) := Prod.ext rfl hroute
  have hfresh : ¬d.settings.IsStale (quiet.now - note.timestamp) := by
    rintro ⟨-, hlt⟩
    rw [httl] at hlt
    exact absurd hlt (by decide)
  have hexpired := hexact quiet b _ d note .client _ hreachable hd (by decide) hrouted rfl
  rw [if_neg hfresh] at hexpired
  cases hexpired

end Broker

end MessageBroker
