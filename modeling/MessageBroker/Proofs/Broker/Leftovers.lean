/-
# Nothing overdue is left

While subscriptions and sessions end, nobody subscribes and nobody is active. So a client that
still has a session afterwards was last active when it was before, and a sweep that comes by every
registered subscription leaves none behind that is overdue. A sweep that follows finds nothing to
do, as long as its clock is not ahead of that of the first, nor so far behind that the time since
the last activities wraps around.
-/

import MessageBroker.Proofs.Broker.AsideOperations
import MessageBroker.Proofs.Broker.Evictions

open Std

namespace MessageBroker

namespace Broker

variable {b b' b'' : Broker} {ctx : Context} {env : Environment} {id : DestinationId}
  {d : Destination} {n : SubscriptionId} {s : Subscription} {now : Timestamp} {c : ClientId}
  {strays : Strays}

/-- Subscriptions and sessions at most end, and nobody is active. -/
structure OnlyEnds (b b' : Broker) : Prop where
  registered : ∀ {id n s}, b'.registered? id n = some s → b.registered? id n = some s
  sessions : ∀ {c : ClientId} {session' : Session}, b'.sessions[c]? = some session' →
    ∃ session : Session, b.sessions[c]? = some session ∧ session'.unlisted = session.unlisted

theorem OnlyEnds.trans (h : OnlyEnds b b') (h' : OnlyEnds b' b'') : OnlyEnds b b'' := by
  refine ⟨fun hs => h.registered (h'.registered hs), fun hsession => ?_⟩
  obtain ⟨session', hsession', hsame'⟩ := h'.sessions hsession
  obtain ⟨session, hsession, hsame⟩ := h.sessions hsession'
  exact ⟨session, hsession, hsame'.trans hsame⟩

theorem onlyEnds_of_sessions_eq (hsessions : b'.sessions = b.sessions)
    (hregistered : ∀ {id n s}, b'.registered? id n = some s → b.registered? id n = some s) :
    OnlyEnds b b' :=
  ⟨hregistered, fun h => ⟨_, hsessions ▸ h, rfl⟩⟩

theorem onlyEnds_of_alike (h : Alike b b') : OnlyEnds b b' := by
  refine ⟨fun hs => h.registered? _ _ ▸ hs, fun {c session'} hsession => ?_⟩
  have hsame := h.sessions c
  rw [hsession] at hsame
  obtain ⟨session, hbefore, heq⟩ := Option.map_eq_some_iff.mp hsame.symm
  exact ⟨session, hbefore, heq.symm⟩

theorem lasting_onlyEnds : Lasting OnlyEnds := by
  have hsteady : Steady OnlyEnds :=
    ⟨OnlyEnds.trans, onlyEnds_of_alike, fun _ => onlyEnds_of_sessions_eq rfl id⟩
  apply hsteady.lasting
  · intro b id d hd change hid hthin
    exact onlyEnds_of_sessions_eq rfl (registered?_of_onDestination hd hid hthin)
  · intro b c session _
    let ended : Broker :=
      { b with sessions := b.sessions.erase c, sessionGauge := b.sessionGauge.dec }
    have hended : OnlyEnds b ended := by
      refine ⟨id, fun {c' session'} hsession => ⟨session', ?_, rfl⟩⟩
      rw [Maps.getElem?_erase_ite] at hsession
      split at hsession
      · cases hsession
      · exact hsession
    have hdropped := hended.trans (hsteady.alike (alike_dropCounters c ended))
    exact hdropped.trans (onlyEnds_of_sessions_eq rfl id)

/-- A client that keeps its session was active when it was before. -/
theorem OnlyEnds.lastActivity (h : OnlyEnds b b') (hlive : s.client ∈ b'.sessions) :
    lastActivity s b' = lastActivity s b := by
  obtain ⟨session', hsession'⟩ :=
    Option.isSome_iff_exists.mp (ExtTreeMap.mem_iff_isSome_getElem?.mp hlive)
  obtain ⟨session, hsession, hsame⟩ := h.sessions hsession'
  rw [Broker.lastActivity, Broker.lastActivity, hsession', hsession]
  exact congrArg (·.lastActivity) hsame

/-! ## One destination -/

theorem onlyEnds_sweepStep (hctx : ctx.Within OnlyEnds) (d : Destination) (w : Sweeping)
    (s : Subscription) : OnlyEnds w.broker (sweepStep ctx d now w s).broker := by
  rw [sweepStep]
  split
  · exact lasting_onlyEnds.refl _
  · exact lasting_onlyEnds.sweepOne hctx d.id _ now w s

theorem onlyEnds_foldl_sweepStep (hctx : ctx.Within OnlyEnds) (d : Destination)
    (l : List Subscription) (w : Sweeping) :
    OnlyEnds w.broker (l.foldl (sweepStep ctx d now) w).broker :=
  lasting_onlyEnds.foldl Sweeping.broker (onlyEnds_sweepStep hctx d) l w

theorem onlyEnds_foldl_sweepDestination (hctx : ctx.Within OnlyEnds) (ids : List DestinationId)
    (w : Sweeping) : OnlyEnds w.broker (ids.foldl (sweepDestination ctx now) w).broker :=
  lasting_onlyEnds.foldl Sweeping.broker (lasting_onlyEnds.sweepDestination hctx now) ids w

/-- What is registered after its turn was not overdue. -/
theorem not_lapsed_of_registered?_sweepStep (hctx : ctx.Within OnlyEnds) {w : Sweeping}
    (hs : (sweepStep ctx d now w s).broker.registered? d.id s.id = some s) :
    ¬d.settings.Lapsed (Timestamp.since now (lastActivity s w.broker)) := by
  intro hlapsed
  have hbefore := (onlyEnds_sweepStep hctx d w s).registered hs
  rw [sweepStep_of_lapsed hbefore hlapsed] at hs
  have hdetached := (lasting_onlyEnds.detach hctx d.id .idleTimeout
    (takeOut d.id (takeOne s.id) w.broker).1 s).registered hs
  rw [registered?_takeOut_one, if_pos ⟨rfl, rfl⟩] at hdetached
  cases hdetached

theorem not_lapsed_of_foldl_sweepStep (hctx : ctx.Within OnlyEnds) {l : List Subscription}
    {w : Sweeping} (hl : s ∈ l) (hends : OnlyEnds (l.foldl (sweepStep ctx d now) w).broker b')
    (hs : b'.registered? d.id s.id = some s) (hlive : s.client ∈ b'.sessions) :
    ¬d.settings.Lapsed (Timestamp.since now (lastActivity s b')) := by
  induction l generalizing w with
  | nil => cases hl
  | cons t l ih =>
    rw [List.foldl_cons] at hends
    rcases List.mem_cons.mp hl with rfl | hl
    · have hlater := (onlyEnds_foldl_sweepStep hctx d l _).trans hends
      rw [((onlyEnds_sweepStep hctx d w s).trans hlater).lastActivity hlive]
      exact not_lapsed_of_registered?_sweepStep hctx (hlater.registered hs)
    · exact ih hl hends

/-! ## All destinations -/

/-- What is left after a sweep went through destinations is not overdue there. -/
theorem not_hasLapsed_of_foldl_sweepDestination (haside : ctx.Aside) (hctx : ctx.Within OnlyEnds)
    {ids : List DestinationId} {w : Sweeping} (hid : id ∈ ids)
    (hbeside : Aside (ids.foldl (sweepDestination ctx now) w).broker b')
    (hends : OnlyEnds (ids.foldl (sweepDestination ctx now) w).broker b')
    (hs : b'.registered? id s.id = some s) (hlive : s.client ∈ b'.sessions) :
    ¬HasLapsed b' now id s := by
  induction ids generalizing w with
  | nil => cases hid
  | cons id' ids ih =>
    rw [List.foldl_cons] at hbeside hends
    rcases List.mem_cons.mp hid with rfl | hid
    · have hlater := (onlyEnds_foldl_sweepDestination hctx ids _).trans hends
      have hearlier :=
        ((lasting_onlyEnds.sweepDestination hctx now w id).trans hlater).registered hs
      obtain ⟨d, hd, hget⟩ := Option.bind_eq_some_iff.mp hearlier
      obtain rfl := (mem_of_destination? hd).2
      rw [sweepDestination_eq hd] at hlater
      have hswept := not_lapsed_of_foldl_sweepStep hctx ((mem_toList_iff hd).mpr ⟨s.id, hearlier⟩)
        hlater hs hlive
      have hsettings : (b'.destination? d.id).map (·.settings) = some d.settings := by
        have hall := ((aside_sweepDestination haside now w d.id).trans
          (aside_foldl Sweeping.broker (aside_sweepDestination haside now) ids _)).trans hbeside
        rw [hall.settings, hd]
        rfl
      rintro ⟨settings, hfound, hlapsed⟩
      cases hsettings.symm.trans hfound
      exact hswept hlapsed
    · exact ih hid hbeside hends

/-! ## The whole sweep -/

/-- What a sweep has done once it went through all destinations. -/
def swept (env : Environment) (now : Timestamp) (b : Broker) : Sweeping :=
  b.destinationIds.foldl (sweepDestination (b.context env) now) ⟨b, 0, ∅⟩

/-- What is left when the sessions without subscriptions have ended, too. -/
def deserted (env : Environment) (now : Timestamp) (b : Broker) : Broker :=
  (swept env now b).clients.toList.foldl (fun b' c => terminate (b.context env) c true b')
    (swept env now b).broker

theorem sweepAt_eq (env : Environment) (now : Timestamp) (b : Broker) :
    ∃ entries : List Event, (∀ e ∈ entries, e.traffic? = none) ∧
      sweepAt env now b =
        ((deserted env now b).recordAll entries, (swept env now b).evicted) := by
  rw [sweepAt]
  show ∃ entries, _ ∧ (if 0 < (swept env now b).evicted then
    ((deserted env now b).log .info _, _) else (deserted env now b, _)) = _
  split
  · exact ⟨[.log .info _], by simp [Event.traffic?], rfl⟩
  · refine ⟨[], List.forall_mem_nil _, ?_⟩
    rw [recordAll_nil]
    rfl

/-- Sessions end after all destinations were swept. -/
theorem aside_onlyEnds_sweepAt (env : Environment) (now : Timestamp) (b : Broker) :
    Aside (swept env now b).broker (sweepAt env now b).1 ∧
      OnlyEnds (swept env now b).broker (sweepAt env now b).1 := by
  obtain ⟨entries, hentries, heq⟩ := sweepAt_eq env now b
  have haside : Aside (swept env now b).broker (deserted env now b) :=
    aside_foldl (fun b => b) (fun b' c => aside_terminate (aside_context env b) c true b') _ _
  have hends : OnlyEnds (swept env now b).broker (deserted env now b) :=
    lasting_onlyEnds.foldl (fun b => b)
      (fun b' c => lasting_onlyEnds.terminate (lasting_onlyEnds.context env b) c true b') _ _
  rw [heq]
  refine ⟨haside.trans (aside_of_eq rfl rfl ?_), hends.trans (onlyEnds_of_sessions_eq rfl id)⟩
  rw [traffic, recordAll, List.filterMap_append, List.filterMap_eq_nil_iff.mpr hentries,
    List.append_nil, traffic]

/-- A registered subscription is listed in the session of its client. -/
theorem exists_session_of_registered? (hb : b.books.Accounted strays)
    (hs : b.registered? id n = some s) :
    ∃ session : Session, b.sessions[s.client]? = some session ∧
      session.subscriptions[n]? = some id := by
  have hlisted := (hb.owned (holds_of_registered? hb hs)).2
  rw [id_eq_of_registered? hb hs] at hlisted
  obtain ⟨listing, hlisting, hn⟩ := Option.bind_eq_some_iff.mp hlisted
  rw [getElem?_books_sessions] at hlisting
  obtain ⟨session, hsession, rfl⟩ := Option.map_eq_some_iff.mp hlisting
  exact ⟨session, hsession, hn⟩

theorem mem_sessions_of_registered? (hb : b.books.Accounted strays)
    (hs : b.registered? id n = some s) : s.client ∈ b.sessions := by
  obtain ⟨session, hsession, -⟩ := exists_session_of_registered? hb hs
  rw [ExtTreeMap.mem_iff_isSome_getElem?, hsession]
  rfl

/-- Nothing that is registered after a sweep is overdue. -/
theorem not_hasLapsed_sweepAt (hb : b.books.Accounted strays) (env : Environment)
    (now : Timestamp) (hs : (sweepAt env now b).1.registered? id n = some s) :
    ¬HasLapsed (sweepAt env now b).1 now id s := by
  obtain ⟨more, hafter⟩ := accounted_perform env (.sweep now) hb
  obtain ⟨haside, hends⟩ := aside_onlyEnds_sweepAt env now b
  have hplace : id ∈ b.destinationIds := by
    obtain ⟨d, hd, -⟩ := Option.bind_eq_some_iff.mp
      ((lasting_onlyEnds.sweepAt env now b).registered hs)
    obtain ⟨hmem, rfl⟩ := mem_of_destination? hd
    exact List.mem_map_of_mem hmem
  obtain rfl := id_eq_of_registered? hafter hs
  exact not_hasLapsed_of_foldl_sweepDestination (aside_context env b)
    (lasting_onlyEnds.context env b) hplace haside hends hs (mem_sessions_of_registered? hafter hs)

theorem foldl_eq_self {σ α : Type} {step : σ → α → σ} {w : σ} {l : List α}
    (h : ∀ a ∈ l, step w a = w) : l.foldl step w = w := by
  induction l with
  | nil => rfl
  | cons a l ih =>
    rw [List.foldl_cons, h a List.mem_cons_self]
    exact ih fun a' ha' => h a' (List.mem_cons_of_mem _ ha')

/-- Without anything overdue, a sweep does nothing. -/
theorem sweepAt_of_not_hasLapsed (env : Environment)
    (hnone : ∀ {id n s}, b.registered? id n = some s → ¬HasLapsed b now id s) :
    sweepAt env now b = (b, 0) := by
  have hone (id : DestinationId) :
      sweepDestination (b.context env) now ⟨b, 0, ∅⟩ id = ⟨b, 0, ∅⟩ := by
    cases hd : b.destination? id with
    | none => rw [sweepDestination, hd]
    | some d =>
      rw [sweepDestination_eq hd]
      apply foldl_eq_self
      intro s hs
      obtain ⟨n, hn⟩ := (mem_toList_iff hd).mp hs
      apply sweepStep_of_not_lapsed
      rw [← hasLapsed_iff hd]
      exact hnone hn
  have hall : b.destinationIds.foldl (sweepDestination (b.context env) now) ⟨b, 0, ∅⟩ =
      ⟨b, 0, ∅⟩ :=
    foldl_eq_self fun id _ => hone id
  rw [sweepAt]
  rw [hall]
  rfl

/-- What counts as overdue at a time does so later on, as long as both times are in reach of the
last activity. -/
theorem HasLapsed.mono {now now' : Int} (h : HasLapsed b now' id s) (hle : now' ≤ now)
    (hfits' : Timestamp.Fits now' (lastActivity s b))
    (hfits : Timestamp.Fits now (lastActivity s b)) :
    HasLapsed b now id s := by
  obtain ⟨settings, hsettings, hlapsed⟩ := h
  refine ⟨settings, hsettings, hlapsed.mono ?_⟩
  rw [Timestamp.since_of_fits hfits, Timestamp.since_of_fits hfits']
  exact Int.sub_le_sub_right hle _

/-- After a sweep, another one at the same time does nothing. -/
theorem sweepAt_sweepAt (hb : b.books.Accounted strays) (env env' : Environment)
    (now : Timestamp) : sweepAt env' now (sweepAt env now b).1 = ((sweepAt env now b).1, 0) :=
  sweepAt_of_not_hasLapsed env' (not_hasLapsed_sweepAt hb env now)

/-- Nor does one at an earlier time, as long as both times are in reach of the last activities. -/
theorem sweepAt_sweepAt_of_le (hb : b.books.Accounted strays) (env env' : Environment)
    {now now' : Int} (hle : now' ≤ now)
    (hfits : ∀ id n s, b.registered? id n = some s →
      Timestamp.Fits now' (lastActivity s b) ∧ Timestamp.Fits now (lastActivity s b)) :
    sweepAt env' now' (sweepAt env now b).1 = ((sweepAt env now b).1, 0) := by
  obtain ⟨more, hafter⟩ := accounted_perform env (.sweep now) hb
  have hends := lasting_onlyEnds.sweepAt env now b
  apply sweepAt_of_not_hasLapsed
  intro id n s hs hlapsed
  obtain ⟨hfits', hfits⟩ := hfits id n s (hends.registered hs)
  rw [← hends.lastActivity (mem_sessions_of_registered? hafter hs)] at hfits hfits'
  exact not_hasLapsed_sweepAt hb env now hs (hlapsed.mono hle hfits' hfits)

end Broker

end MessageBroker
