/-
# When a client was last active

A session keeps the time at which its client was last active. Five operations record activity,
and so does every copy of a message that the transport takes for the client. The time never goes
back: activity at an earlier time, by a clock that was set back, leaves it where it is. So it is
the latest of the moments of activity since the session began, of which the beginning is one.

As long as nobody calls back, what an operation has recorded can be told from its answer: a request
to subscribe that passes its checks is granted, and it is activity just then.

So nobody who was active is swept in time, unless the sweep goes by a clock so far behind that the
time since the last activity wraps around.
-/

import Mathlib.Order.Bounds.Basic
import MessageBroker.Proofs.Broker.LiveState
import MessageBroker.Proofs.Broker.Sweeping

open Std

namespace MessageBroker

/-- When a session began and when its client was last active. -/
def Session.times (s : Session) : Timestamp × Timestamp := (s.connectedAt, s.lastActivity)

/-- Whether an operation is performed in the name of a client. -/
def Operation.IsOf (c : ClientId) : Operation → Prop
  | .connect c' | .touch c' _ | .login c' _ | .logout c' => c' = c
  | .subscribe r => r.client = c
  | .route m => m.client = c
  | _ => False

instance (c : ClientId) (op : Operation) : Decidable (op.IsOf c) := by
  cases op <;> unfold Operation.IsOf <;> infer_instance

/-- Whether an operation is activity of a client at some time, as its answer tells. -/
def Operation.IsActivity (env : Environment) (b : Broker) (c : ClientId) (t : Timestamp) :
    Operation → Prop
  | .touch c' time => c' = c ∧ time = t
  | .login c' p => c' = c ∧ env.now = t ∧ (Broker.login env c' p b).2 = .ok ()
  | .subscribe r => r.client = c ∧ env.now = t ∧ ∃ n, (Broker.subscribe env r b).2 = .ok n
  | .route m => m.client = c ∧ env.now = t ∧ ∃ located, (Broker.passGate env m b).2 = .ok located
  | _ => False

namespace Broker

variable {b b' b'' b₀ : Broker} {ctx : Context} {env : Environment} {op : Operation}
  {id : DestinationId} {d : Destination} {n : SubscriptionId} {s : Subscription}
  {c c' : ClientId} {m : Message} {now t : Timestamp} {session : Session}
  {moments moments' : Set Timestamp} {steps earlier later : List (Environment × Operation)}

/-! ## From one moment to another -/

theorem isGreatest_insert_empty {α : Type} [Preorder α] (a : α) :
    IsGreatest (insert a (∅ : Set α)) a := by
  rw [insert_empty_eq]
  exact isGreatest_singleton

theorem isGreatest_insert_trans {α : Type} [LinearOrder α] {a x y : α} {M M' : Set α}
    (h : IsGreatest (insert a M) x) (h' : IsGreatest (insert x M') y) :
    IsGreatest (insert a (M ∪ M')) y := by
  have hle : x ≤ y := h'.2 (Set.mem_insert x M')
  constructor
  · rcases h'.1 with rfl | hy
    · exact h.1.imp_right .inl
    · exact .inr (.inr hy)
  · rintro z (rfl | hz | hz)
    · exact (h.2 (Set.mem_insert z M)).trans hle
    · exact (h.2 (.inr hz)).trans hle
    · exact h'.2 (.inr hz)

/-- Whoever has a session afterwards had it all the time, and was active at some moments. -/
structure Ages (c : ClientId) (moments : Set Timestamp) (b b' : Broker) : Prop where
  adds : b.journal <+: b'.journal
  live : ∀ {session' : Session}, b'.sessions[c]? = some session' → SessionStays c b b' ∧
    ∃ session : Session, b.sessions[c]? = some session ∧
      session'.connectedAt = session.connectedAt ∧
      IsGreatest (insert session.lastActivity moments) session'.lastActivity

theorem Ages.trans (h : Ages c moments b b') (h' : Ages c moments' b' b'') :
    Ages c (moments ∪ moments') b b'' := by
  refine ⟨h.adds.trans h'.adds, fun {session''} hsession'' => ?_⟩
  obtain ⟨hthen, session', hsession', hsame', hlater⟩ := h'.live hsession''
  obtain ⟨hfirst, session, hsession, hsame, hsooner⟩ := h.live hsession'
  exact ⟨(sessionStays_of_trans h.adds h'.adds).mpr ⟨hfirst, hthen⟩, session, hsession,
    hsame'.trans hsame, isGreatest_insert_trans hsooner hlater⟩

theorem Ages.congr (h : Ages c moments b b') (hmoments : moments = moments') :
    Ages c moments' b b' :=
  hmoments ▸ h

/-- Without a session afterwards, there is nothing to say. -/
theorem ages_of_none (hadds : b.journal <+: b'.journal) (hnone : b'.sessions[c]? = none) :
    Ages c moments b b' :=
  ⟨hadds, fun h => nomatch hnone.symm.trans h⟩

/-- A session that keeps its times was not active. -/
theorem ages_of_times (hjournal : b'.journal = b.journal)
    (hsame : (b'.sessions[c]?).map (·.times) = (b.sessions[c]?).map (·.times)) :
    Ages c ∅ b b' := by
  refine ⟨hjournal ▸ List.prefix_rfl, fun {session'} hsession' => ?_⟩
  rw [hsession', Option.map_some] at hsame
  obtain ⟨session, hsession, heq⟩ := Option.map_eq_some_iff.mp hsame.symm
  obtain ⟨hconnected, hactive⟩ := Prod.mk.inj heq
  refine ⟨sessionStays_of_journal_eq hjournal, session, hsession, hconnected.symm, ?_⟩
  rw [← hactive]
  exact isGreatest_insert_empty session.lastActivity

theorem ages_of_alike (h : Alike b b') : Ages c ∅ b b' := by
  have hsame := congrArg (Option.map (·.times)) (h.sessions c)
  rw [Option.map_map, Option.map_map] at hsame
  exact ages_of_times h.journal hsame

theorem ages_record {e : Event} (he : e ≠ .notice (.sessionTerminated c)) (b : Broker) :
    Ages c ∅ b (b.record e) := by
  refine ⟨List.prefix_append _ _, fun {session} hsession => ?_⟩
  exact ⟨sessionStays_record he b, session, hsession, rfl, isGreatest_insert_empty _⟩

/-- A change of the session of a client that is activity at some time. -/
theorem ages_onSession {change : Session → Session} (b : Broker)
    (hchange : ∀ s, (change s).times = (s.touch now).times) :
    Ages c {now} b (b.onSession c change) := by
  have hjournal := journal_onSession b c change
  refine ⟨hjournal ▸ List.prefix_rfl, fun {session'} hsession' => ?_⟩
  rw [getElem?_sessions_onSession, if_pos rfl] at hsession'
  obtain ⟨session, hsession, rfl⟩ := Option.map_eq_some_iff.mp hsession'
  obtain ⟨hconnected, hactive⟩ := Prod.mk.inj (hchange session)
  refine ⟨sessionStays_of_journal_eq hjournal, session, hsession, hconnected, ?_⟩
  rw [hactive]
  exact isGreatest_pair

theorem ages_touch (b : Broker) (c : ClientId) (now : Timestamp) :
    Ages c {now} b (b.touch c now) :=
  ages_onSession b fun _ => rfl

/-- The sessions of other clients make no difference. -/
theorem ages_onSession_of_ne (hc : c' ≠ c) (b : Broker) (change : Session → Session) :
    Ages c ∅ b (b.onSession c' change) := by
  refine ages_of_times (journal_onSession b c' change) ?_
  rw [getElem?_sessions_onSession, if_neg hc]

/-! ## Copies of messages -/

/-- The moment at which the transport took a copy of a message for a client, if it did while an
operation was performed. -/
def taken (env : Environment) (c : ClientId) (b b' : Broker) : Set Timestamp :=
  {t | env.now = t ∧ ∃ m, .delivery c m ∈ entriesSince b b' ∧ env.deliver c m = .ok ()}

/-- A client that has a session afterwards had it all the time, and was active when it got
copies. -/
def AgesByCopies (env : Environment) (c : ClientId) (b b' : Broker) : Prop :=
  Ages c (taken env c b b') b b'

theorem taken_trans (h : b.journal <+: b'.journal) (h' : b'.journal <+: b''.journal) :
    taken env c b b'' = taken env c b b' ∪ taken env c b' b'' := by
  ext t
  simp only [taken, entriesSince_trans h h', List.mem_append, Set.mem_ofPred_eq, Set.mem_union,
    or_and_right, exists_or, and_or_left]

theorem taken_eq_empty (h : ∀ m, .delivery c m ∉ entriesSince b b') : taken env c b b' = ∅ :=
  Set.eq_empty_of_forall_notMem fun _ ⟨_, m, hm, _⟩ => h m hm

theorem entriesSince_of_journal_eq (h : b'.journal = b.journal) : entriesSince b b' = [] := by
  rw [entriesSince, h, List.drop_length]

theorem agesByCopies_of_ages (h : Ages c ∅ b b') (hnone : ∀ m, .delivery c m ∉ entriesSince b b') :
    AgesByCopies env c b b' :=
  h.congr (taken_eq_empty hnone).symm

theorem agesByCopies_of_journal_eq (h : Ages c ∅ b b') (hjournal : b'.journal = b.journal) :
    AgesByCopies env c b b' :=
  agesByCopies_of_ages h fun _ => entriesSince_of_journal_eq hjournal ▸ List.not_mem_nil

theorem agesByCopies_record {e : Event} (hend : e ≠ .notice (.sessionTerminated c))
    (hcopy : ∀ m, e ≠ .delivery c m) (b : Broker) : AgesByCopies env c b (b.record e) := by
  refine agesByCopies_of_ages (ages_record hend b) fun m => ?_
  rw [entriesSince_of_eq_append (show _ = b.journal ++ [e] from rfl), List.mem_singleton]
  exact (hcopy m).symm

theorem lasting_agesByCopies (env : Environment) (c : ClientId) : Lasting (AgesByCopies env c) := by
  have hsteady : Steady (AgesByCopies env c) := by
    refine ⟨fun h h' => ?_, fun h => agesByCopies_of_journal_eq (ages_of_alike h) h.journal,
      fun {b e} he => agesByCopies_record ?_ (fun m => ?_) b⟩
    · exact (h.trans h').congr (taken_trans h.adds h'.adds).symm
    · rintro rfl
      exact he
    · rintro rfl
      exact he
  apply hsteady.lasting
  · exact fun _ _ _ _ => agesByCopies_of_journal_eq (ages_of_times rfl rfl) rfl
  · intro b c' session _
    let ended : Broker :=
      { b with sessions := b.sessions.erase c', sessionGauge := b.sessionGauge.dec }
    show AgesByCopies env c b ((dropCounters c' ended).record (.notice (.sessionTerminated c')))
    have hsession : ended.sessions[c]? = if c' = c then none else b.sessions[c]? :=
      Maps.getElem?_erase_ite b.sessions c' c
    by_cases hc : c' = c
    · rw [if_pos hc] at hsession
      exact ages_of_none (List.prefix_append _ _) hsession
    · rw [if_neg hc] at hsession
      have hended : AgesByCopies env c b (dropCounters c' ended) :=
        agesByCopies_of_journal_eq (ages_of_times rfl (congrArg _ hsession)) rfl
      exact hsteady.trans hended (agesByCopies_record (sessionTerminated_ne hc) nofun _)

/-- Between two moments, no copy of a message was handed out for a client. -/
def Uncopied (c : ClientId) (b b' : Broker) : Prop :=
  b.journal <+: b'.journal ∧ ∀ m, Event.delivery c m ∉ entriesSince b b'

theorem uncopied_of_journal_eq (h : b'.journal = b.journal) : Uncopied c b b' :=
  ⟨h ▸ List.prefix_rfl, fun _ => entriesSince_of_journal_eq h ▸ List.not_mem_nil⟩

theorem uncopied_record {e : Event} (he : ∀ m, e ≠ .delivery c m) (b : Broker) :
    Uncopied c b (b.record e) := by
  refine ⟨List.prefix_append _ _, fun m => ?_⟩
  rw [entriesSince_of_eq_append (show _ = b.journal ++ [e] from rfl), List.mem_singleton]
  exact (he m).symm

theorem lasting_uncopied (c : ClientId) : Lasting (Uncopied c) := by
  have hsteady : Steady (Uncopied c) := by
    refine ⟨fun h h' => ⟨h.1.trans h'.1, fun m => ?_⟩, fun h => uncopied_of_journal_eq h.journal,
      fun {b e} he => uncopied_record (fun m => ?_) b⟩
    · rw [entriesSince_trans h.1 h'.1, List.mem_append, not_or]
      exact ⟨h.2 m, h'.2 m⟩
    · rintro rfl
      exact he
  apply hsteady.lasting
  · exact fun _ _ _ _ => uncopied_of_journal_eq rfl
  · intro b c' session _
    exact uncopied_record (e := .notice (.sessionTerminated c')) nofun _

theorem delivering_uncopied (c : ClientId) (now : Timestamp) :
    Steady.Delivering (Uncopied c) now := fun b c' m =>
  (lasting_uncopied c).trans (uncopied_of_journal_eq (journal_onSession b c' _))
    (uncopied_record (e := .notice (.messageDelivered c' m)) nofun _)

theorem ages_of_uncopied (h : AgesByCopies env c b b') (hnone : Uncopied c b b') : Ages c ∅ b b' :=
  h.congr (taken_eq_empty hnone.2)

theorem ages_touch_of (b : Broker) (c' : ClientId) (now : Timestamp) :
    Ages c {t | now = t ∧ c' = c} b (b.touch c' now) := by
  by_cases hc : c' = c
  · subst hc
    exact (ages_touch b c' now).congr (by ext t; simp [eq_comm])
  · exact (ages_onSession_of_ne hc b _).congr (by ext t; simp [hc])

/-- A copy is activity of its client if the transport takes it. -/
theorem ages_settle (env : Environment) (b₀ : Broker) (id : DestinationId) (m : Message)
    (w : Handover) (c' : ClientId) :
    Ages c {t | env.now = t ∧ c' = c ∧ env.deliver c' m = .ok ()} w.broker
      (settle (b₀.context env) id m w c').broker := by
  have hcopies := lasting_agesByCopies env c
  have huncopied := lasting_uncopied c
  have hctx := hcopies.context env b₀
  have hctx' := huncopied.context env b₀
  have henv : (b₀.context env).env = env := rfl
  rw [settle]
  dsimp only
  rw [henv]
  split
  next hok =>
    have htold (b : Broker) : Ages c ∅ (b.record (.notice (.messageDelivered c' m)))
        (notify (b₀.context env) (.messageDelivered c' m) b) :=
      ages_of_uncopied (hcopies.notify_of_record hctx _ b) (huncopied.notify_of_record hctx' _ b)
    have hcounted : Ages c ∅ _ _ := ages_of_alike
      (alike_onTotals (fun t => { t with delivered := t.delivered + 1 }) w.broker id)
    have htouched := hcounted.trans (ages_touch_of _ c' env.now)
    have hrecorded := htouched.trans
      (ages_record (e := .notice (.messageDelivered c' m)) (by simp) _)
    refine (hrecorded.trans (htold _)).congr ?_
    ext t
    simp [hok]
  next fault hfault =>
    have hdropped : (Event.notice (.messageDropped (some c') m .deliveryFailed)).IsRoutine :=
      trivial
    have halike := alike_onTotals
      (fun t => { t with deliveryFailures := t.deliveryFailures + 1 }) w.broker id
    have htold (b : Broker) : Ages c ∅ b
        (notify (b₀.context env) (.messageDropped (some c') m .deliveryFailed) b) :=
      ages_of_uncopied (hcopies.notify hctx hdropped) (huncopied.notify hctx' hdropped)
    have hlogged (b : Broker) (text : String) : Ages c ∅ b (b.log .warning text) :=
      ages_record (e := .log .warning text) (by simp) b
    refine (((ages_of_alike halike).trans (hlogged _ _)).trans (htold _)).congr ?_
    ext t
    simp [hfault]

theorem ages_foldl_settle (env : Environment) (b₀ : Broker) (id : DestinationId) (m : Message)
    (targets : List ClientId) (w : Handover) :
    Ages c {t | env.now = t ∧ c ∈ targets ∧ env.deliver c m = .ok ()} w.broker
      (targets.foldl (settle (b₀.context env) id m) w).broker := by
  induction targets generalizing w with
  | nil => exact ((ages_of_times rfl rfl).congr (by ext t; simp))
  | cons c' targets ih =>
    refine ((ages_settle env b₀ id m w c').trans (ih _)).congr ?_
    ext t
    simp only [Set.mem_union, Set.mem_ofPred_eq, List.mem_cons, eq_comm (a := c')]
    grind

/-- Handing out copies of a message and dealing with their outcome. -/
theorem agesByCopies_handOver (env : Environment) (b₀ : Broker) (id : DestinationId) (m : Message)
    (targets : List ClientId) (b : Broker) :
    AgesByCopies env c b (targets.foldl (settle (b₀.context env) id m)
      ⟨targets.foldl (fun b c => b.record (.delivery c m)) b, 0, 0⟩).broker := by
  have hrecorded (targets : List ClientId) (b : Broker) :
      targets.foldl (fun b c => b.record (.delivery c m)) b =
        b.recordAll (targets.map (.delivery · m)) := by
    induction targets generalizing b with
    | nil => exact (recordAll_nil b).symm
    | cons c' targets ih =>
      rw [List.foldl_cons, ih]
      exact recordAll_recordAll b [.delivery c' m] _
  rw [hrecorded]
  let copied : Broker := b.recordAll (targets.map (.delivery · m))
  have hsettled := ages_foldl_settle (c := c) env b₀ id m targets ⟨copied, 0, 0⟩
  have hnone := (lasting_uncopied c).foldl Handover.broker
    ((lasting_uncopied c).settle (delivering_uncopied c _) ((lasting_uncopied c).context env b₀)
      id m) targets ⟨copied, 0, 0⟩
  have hentries : entriesSince b copied = targets.map (.delivery · m) :=
    entriesSince_of_eq_append rfl
  have hcopied : Ages c ∅ b copied := by
    refine ⟨List.prefix_append _ _, fun {session} hsession =>
      ⟨?_, session, hsession, rfl, isGreatest_insert_empty _⟩⟩
    rw [SessionStays, hentries]
    simp
  refine (hcopied.trans hsettled).congr ?_
  rw [taken_trans hcopied.adds hsettled.adds, taken_eq_empty hnone.2, Set.union_empty,
    Set.empty_union]
  ext t
  simp only [taken, hentries, Set.mem_ofPred_eq, List.mem_map, Event.delivery.injEq]
  grind

theorem handing_agesByCopies (env : Environment) (c : ClientId) (b : Broker) :
    Lasting.Handing (AgesByCopies env c) env b := by
  intro id d hd b₀ m ts only b'
  have hcopies := lasting_agesByCopies env c
  have hctx := hcopies.context env b₀
  have hmatching := hcopies.lookups (lookups_matchingSubscriptions env d ts (contentOf m) b')
  have henv : (b₀.context env).env = env := rfl
  rw [deliverLocal]
  dsimp only
  rw [henv]
  generalize matchingSubscriptions env d ts (contentOf m) b' = found at hmatching ⊢
  generalize recipientsOf (found.2.filter fun s => only.all (· == s.client)) = recipients
  have hscreened := hcopies.foldl Screening.broker (hcopies.screen hctx d.id m) recipients.toList
    ⟨found.1, [], 0, 0⟩
  exact hcopies.trans (hcopies.trans hmatching hscreened) (agesByCopies_handOver env b₀ d.id m _ _)

/-! ## One operation -/

theorem entering_agesByCopies (env : Environment) (c c' : ClientId) :
    Lasting.Entering (AgesByCopies env c) c' := by
  intro s b _
  have hsame := congrArg (Option.map (·.times)) (unlisted_enter s b c)
  rw [Option.map_map, Option.map_map] at hsame
  exact agesByCopies_of_journal_eq (ages_of_times (journal_enter s b) hsame) (journal_enter s b)

/-- An operation that is not performed in the name of a client is no activity of the client but
for the copies that it gets. -/
theorem agesByCopies_perform (env : Environment) (hop : ¬op.IsOf c) (b : Broker) :
    AgesByCopies env c b (perform env b op).1 := by
  have hset {c'} (hc : c' ≠ c) (b : Broker) (change : Session → Session) :
      AgesByCopies env c b (b.onSession c' change) :=
    agesByCopies_of_journal_eq (ages_onSession_of_ne hc b change) (journal_onSession b c' change)
  apply (lasting_agesByCopies env c).perform
  · intro c' hcontacts b hnone now
    have hc : c' ≠ c := by
      rintro rfl
      cases op <;> first | exact hop hcontacts | exact hcontacts
    refine agesByCopies_of_journal_eq (ages_of_times rfl ?_) rfl
    exact congrArg _ ((Maps.getElem?_insert_ite b.sessions c' c _).trans (if_neg hc))
  · intro c' now htouches b
    refine hset ?_ b _
    rintro rfl
    cases op <;> first | exact hop htouches.1 | exact htouches
  · exact handing_agesByCopies env c b
  · intro c' hsets
    apply hset
    rintro rfl
    cases op <;> first | exact hop hsets | exact hsets
  · exact fun c' _ => entering_agesByCopies env c c'

/-! ## Operations in the name of a client -/

/-- The broker once a client has a session, which begins at some time unless there is one. -/
def begun (c : ClientId) (now : Timestamp) (b : Broker) : Broker :=
  match b.sessions[c]? with
  | some _ => b
  | none =>
    { b with
      sessions := b.sessions.insert c (Session.begin now), sessionGauge := b.sessionGauge.inc }

theorem begun_of_some (h : b.sessions[c]? = some session) (now : Timestamp) :
    b.begun c now = b := by
  rw [begun, h]

theorem begun_of_none (h : b.sessions[c]? = none) (now : Timestamp) :
    b.begun c now =
      { b with
        sessions := b.sessions.insert c (Session.begin now)
        sessionGauge := b.sessionGauge.inc } := by
  rw [begun, h]

theorem journal_begun (c : ClientId) (now : Timestamp) (b : Broker) :
    (b.begun c now).journal = b.journal := by
  rw [begun]
  split <;> rfl

theorem entriesSince_begun (c : ClientId) (now : Timestamp) (b b' : Broker) :
    entriesSince (b.begun c now) b' = entriesSince b b' := by
  rw [entriesSince, journal_begun, entriesSince]

theorem taken_begun (env : Environment) (c : ClientId) (now : Timestamp) (b b' : Broker) :
    taken env c (b.begun c now) b' = taken env c b b' := by
  rw [taken, entriesSince_begun, taken]

/-- Who has no session before has none afterwards, as long as none begins. -/
theorem Ages.begun (h : Ages c moments b b') (now : Timestamp) :
    Ages c moments (b.begun c now) b' := by
  cases hsession : b.sessions[c]? with
  | some session =>
    rw [begun_of_some hsession]
    exact h
  | none =>
    refine ages_of_none (journal_begun c now b ▸ h.adds) ?_
    rw [Option.eq_none_iff_forall_ne_some]
    intro session' hsession'
    obtain ⟨-, session, hfound, -⟩ := h.live hsession'
    cases hsession.symm.trans hfound

theorem agesByCopies_begun_onlyAsked (h : OnlyAsked b b') (now : Timestamp) :
    AgesByCopies env c (b.begun c now) (b'.begun c now) := by
  obtain ⟨asked, hasked, rfl⟩ := h
  have hsame : ({ b with journal := b.journal ++ asked } : Broker).begun c now =
      { b.begun c now with journal := (b.begun c now).journal ++ asked } := by
    rw [begun, begun]
    dsimp only
    cases b.sessions[c]? <;> rfl
  rw [hsame]
  exact (lasting_agesByCopies env c).onlyAsked ⟨asked, hasked, rfl⟩

theorem agesByCopies_connectIn (env : Environment) (b₀ : Broker) (c : ClientId) (b : Broker) :
    AgesByCopies env c (b.begun c env.now) (connectIn (b₀.context env) c b).1 := by
  have hcopies := lasting_agesByCopies env c
  rw [connectIn]
  cases hsession : b.sessions[c]? with
  | some session =>
    rw [begun_of_some hsession]
    exact hcopies.refl b
  | none =>
    rw [begun_of_none hsession]
    exact hcopies.notify (hcopies.context env b₀) trivial

/-- The moments of activity of a client during an operation: it is itself activity, or the client
got a copy of a message. -/
def momentsOf (c : ClientId) (b : Broker) (env : Environment) (op : Operation) : Set Timestamp :=
  {t | op.IsActivity env b c t} ∪ taken env c b (perform env b op).1

theorem momentsOf_of_not_isActivity (h : ∀ t, ¬op.IsActivity env b c t) :
    momentsOf c b env op = taken env c b (perform env b op).1 := by
  rw [momentsOf, Set.union_eq_right]
  exact fun t ht => absurd ht (h t)

theorem isOf_of_isActivity (h : op.IsActivity env b c t) : op.IsOf c := by
  cases op <;> first | exact h.1 | exact h.elim

theorem singleton_eq (now : Timestamp) {p : Prop} (hp : p) :
    ({now} : Set Timestamp) = {t | now = t ∧ p} := by
  ext t
  simp [hp, eq_comm]

/-- A step that goes on, with activity of the client between two stretches. -/
theorem Ages.around {b₁ b₂ : Broker} (hfirst : AgesByCopies env c b b₁)
    (hactive : Ages c {now} b₁ b₂) (hnone : entriesSince b₁ b₂ = [])
    (hrest : AgesByCopies env c b₂ b') :
    Ages c ({now} ∪ taken env c b b') b b' := by
  refine ((Ages.trans hfirst hactive).trans hrest).congr ?_
  have hsame : taken env c b b₂ = taken env c b b₁ := by
    rw [taken_trans hfirst.adds hactive.adds,
      taken_eq_empty (b := b₁) fun m => hnone ▸ List.not_mem_nil, Set.union_empty]
  rw [taken_trans (hfirst.adds.trans hactive.adds) hrest.adds, hsame,
    Set.union_comm (taken env c b b₁), Set.union_assoc]

theorem ages_login (env : Environment) (c : ClientId) (p : Principal) (b : Broker) :
    Ages c ({t | env.now = t ∧ (login env c p b).2 = .ok ()} ∪ taken env c b (login env c p b).1)
      (b.begun c env.now) (login env c p b).1 := by
  have hconnected := agesByCopies_connectIn env b c b
  rw [← taken_begun env c env.now]
  rw [login]
  dsimp only
  generalize (connectIn (b.context env) c b).1 = b₁ at hconnected ⊢
  let logged : Broker := b₁.onSession c fun s => { s with principal := some p }.touch env.now
  have hactive : Ages c {env.now} b₁ logged := ages_onSession b₁ fun _ => rfl
  have hjournal : logged.journal = b₁.journal := journal_onSession _ _ _
  have hgranted : Ages c ({t | env.now = t ∧ (.ok () : Except BrokerError Unit) = .ok ()} ∪
      taken env c (b.begun c env.now) logged) (b.begun c env.now) logged := by
    refine (Ages.around hconnected hactive (entriesSince_of_journal_eq hjournal)
      ((lasting_agesByCopies env c).refl logged)).congr ?_
    rw [singleton_eq env.now rfl]
  split
  next hnone => exact ages_of_none hconnected.adds hnone
  next session hsession =>
    split
    next q _ =>
      split
      · exact hconnected.congr (by simp)
      · exact hgranted
    next => exact hgranted

theorem ages_route (env : Environment) (m : Message) (b : Broker) :
    Ages m.client ({t | env.now = t ∧ ∃ located, (passGate env m b).2 = .ok located} ∪
        taken env m.client b (routeMessage env m b).1)
      b (routeMessage env m b).1 := by
  have hcopies := lasting_agesByCopies env m.client
  have hgate := hcopies.onlyAsked (onlyAsked_passGate env m b)
  cases hpass : (passGate env m b).2 with
  | error e =>
    rw [routeMessage_of_error hpass]
    exact hgate.congr (by simp)
  | ok located =>
    have hreceived := hcopies.trans hgate (hcopies.alike (alike_onTotals
      (fun t => { t with received := t.received + 1 }) (passGate env m b).1 located.1.id))
    have hrest := hcopies.routeReceived hpass (handing_agesByCopies env m.client b)
    refine (Ages.around hreceived (ages_touch _ m.client env.now)
      (entriesSince_of_journal_eq (journal_onSession _ _ _)) hrest).congr ?_
    have hpassed : ∃ l, (.ok located : Except BrokerError (Destination × List Subtopic)) = .ok l :=
      ⟨located, rfl⟩
    rw [singleton_eq env.now hpassed]

/-- As long as nobody calls back, a request to subscribe that passes its checks is granted. -/
theorem ages_subscribe (hb : b.IsReachable) (hsilent : Silent env b) (r : SubscribeRequest) :
    Ages r.client ({t | env.now = t ∧ ∃ n, (subscribe env r b).2 = .ok n} ∪
        taken env r.client b (subscribe env r b).1)
      (b.begun r.client env.now) (subscribe env r b).1 := by
  have hcopies := lasting_agesByCopies env r.client
  obtain ⟨hasked, hcases⟩ := checkRequest_cases env r b
  have hfirst : AgesByCopies env r.client (b.begun r.client env.now)
      ((checkRequest env r b).1.begun r.client env.now) :=
    agesByCopies_begun_onlyAsked hasked env.now
  rw [← taken_begun env r.client env.now]
  cases hcheck : (checkRequest env r b).2 with
  | error e =>
    rw [subscribe_of_error (Prod.ext rfl hcheck), taken_begun]
    refine ((hcopies.onlyAsked hasked).begun env.now).congr ?_
    simp
  | ok filter =>
    obtain ⟨filter', -, hnone, -⟩ := hcases.resolve_left fun ⟨e, herror, _⟩ =>
      nomatch hcheck.symm.trans herror
    obtain ⟨s, hgranted, -⟩ := subscribe_of_silent hb hsilent (Prod.ext rfl hcheck) hasked hnone
    have hok : ∃ n, (subscribe env r b).2 = .ok n := ⟨s.id, hgranted⟩
    rw [← singleton_eq env.now hok, subscribe_of_ok (Prod.ext rfl hcheck)]
    have hctx := hcopies.context env (checkRequest env r b).1
    have hconnected := hcopies.trans hfirst
      (agesByCopies_connectIn env (checkRequest env r b).1 r.client (checkRequest env r b).1)
    dsimp only
    generalize (connectIn _ r.client _).1 = b₁ at hconnected ⊢
    let touched := b₁.touch r.client env.now
    have hnumbered : AgesByCopies env r.client touched
        { touched with nextSubscription := touched.nextSubscription + 1 } :=
      hcopies.alike (alike_of_eq rfl rfl rfl)
    have hrest := hcopies.trans hnumbered (hcopies.enterAndTell hctx
      (s := requested env r filter touched.nextSubscription)
      (entering_agesByCopies env r.client _) _)
    exact Ages.around hconnected (ages_touch b₁ r.client env.now)
      (entriesSince_of_journal_eq (journal_onSession _ _ _)) hrest

/-! ## A whole run -/

/-- During an operation, a client that has a session in the end was active just at the moments
that can be told from the answer, from copies that the transport took for it, and from when the
session began, if it did not have one before. -/
theorem ages_perform (hb : b.IsReachable) (hsilent : Silent env b) (op : Operation) :
    Ages c (momentsOf c b env op) (b.begun c env.now) (perform env b op).1 := by
  by_cases hop : op.IsOf c
  · cases op with
    | connect c' =>
      obtain rfl : c' = c := hop
      rw [momentsOf_of_not_isActivity fun _ => id]
      exact taken_begun env c' env.now b _ ▸ agesByCopies_connectIn env b c' b
    | touch c' time =>
      obtain rfl : c' = c := hop
      refine ((ages_touch b c' time).begun env.now).congr ?_
      have hnone : entriesSince b (perform env b (.touch c' time)).1 = [] :=
        entriesSince_of_journal_eq (journal_onSession b c' _)
      rw [momentsOf, taken_eq_empty fun m => hnone ▸ List.not_mem_nil]
      ext t
      simp [Operation.IsActivity, eq_comm]
    | login c' p =>
      obtain rfl : c' = c := hop
      refine (ages_login env c' p b).congr ?_
      simp [momentsOf, Operation.IsActivity, perform]
    | logout c' =>
      obtain rfl : c' = c := hop
      have hjournal : (logout c' b).journal = b.journal := journal_onSession b c' _
      have hleaves (s : Session) : ({ s with principal := none } : Session).times = s.times := rfl
      have hsame : ((logout c' b).sessions[c']?).map (·.times) = (b.sessions[c']?).map (·.times) :=
        map_sessions_onSession (·.times) hleaves b c' c'
      have hkept : AgesByCopies env c' b (logout c' b) :=
        agesByCopies_of_journal_eq (ages_of_times hjournal hsame) hjournal
      rw [momentsOf_of_not_isActivity fun _ => id]
      exact Ages.begun hkept env.now
    | subscribe r =>
      obtain rfl : r.client = c := hop
      refine (ages_subscribe hb hsilent r).congr ?_
      simp [momentsOf, Operation.IsActivity, perform]
    | route m =>
      obtain rfl : m.client = c := hop
      refine ((ages_route env m b).begun env.now).congr ?_
      simp [momentsOf, Operation.IsActivity, perform]
    | _ => exact hop.elim
  · rw [momentsOf_of_not_isActivity fun t h => hop (isOf_of_isActivity h)]
    exact Ages.begun (agesByCopies_perform env hop b) env.now

/-- The moments of activity of a client in the steps of a run. -/
def signs (c : ClientId) : Broker → List (Environment × Operation) → Set Timestamp
  | _, [] => ∅
  | b, (env, op) :: steps => momentsOf c b env op ∪ signs c (perform env b op).1 steps

theorem signs_append (b : Broker) (steps steps' : List (Environment × Operation)) :
    signs c b (steps ++ steps') =
      signs c b steps ∪ signs c (b.run steps) steps' := by
  induction steps generalizing b with
  | nil => exact (Set.empty_union _).symm
  | cons step steps ih =>
    rw [List.cons_append, signs, signs, ih, Set.union_assoc]
    rfl

theorem signs_concat (b : Broker) (steps : List (Environment × Operation)) (env : Environment)
    (op : Operation) :
    signs c b (steps ++ [(env, op)]) =
      signs c b steps ∪ momentsOf c (b.run steps) env op := by
  rw [signs_append, signs, signs, Set.union_empty]

/-- A client has a session that began with a step of a run, and lasts since. -/
structure BeganWith (b₀ : Broker) (c : ClientId) (earlier : List (Environment × Operation))
    (step : Environment × Operation) (later : List (Environment × Operation)) : Prop where
  absent : c ∉ (b₀.run earlier).sessions
  began : c ∈ (b₀.run (earlier ++ [step])).sessions
  stays : SessionStays c (b₀.run earlier) (b₀.run (earlier ++ step :: later))

theorem BeganWith.concat {step : Environment × Operation} (h : BeganWith b₀ c earlier step later)
    (hstays : SessionStays c (b₀.run (earlier ++ step :: later))
      (perform env (b₀.run (earlier ++ step :: later)) op).1) :
    BeganWith b₀ c earlier step (later ++ [(env, op)]) where
  absent := h.absent
  began := h.began
  stays := by
    have hlist : earlier ++ step :: (later ++ [(env, op)]) =
        (earlier ++ step :: later) ++ [(env, op)] := by simp
    rw [hlist, run_concat b₀ _ (env, op)]
    refine (sessionStays_of_trans ?_ (prefix_perform env op _)).mpr ⟨h.stays, hstays⟩
    rw [run_append]
    exact prefix_run _ _

/-- Throughout a run in which nobody calls back, the last activity of a client is the latest moment
of activity since its session began. -/
theorem exists_beganWith (hbuilt : b₀.IsBuilt)
    (hsilent : ∀ step ∈ steps, step.1.IsSilent ∧ step.2.IsSilent)
    (hsession : (b₀.run steps).sessions[c]? = some session) :
    ∃ earlier step later, steps = earlier ++ step :: later ∧ BeganWith b₀ c earlier step later ∧
      session.connectedAt = step.1.now ∧
      IsGreatest (insert step.1.now (signs c (b₀.run earlier) (step :: later)))
        session.lastActivity := by
  induction steps using List.reverseRecOn generalizing session with
  | nil =>
    rw [run, List.foldl_nil, hbuilt.sessions] at hsession
    simp at hsession
  | append_singleton steps step ih =>
    obtain ⟨env, op⟩ := step
    have hsteps : ∀ step ∈ steps, step.1.IsSilent ∧ step.2.IsSilent := fun step hstep =>
      hsilent step (List.mem_append_left _ hstep)
    have henv : env.IsSilent := (hsilent (env, op) (by simp)).1
    have hages := ages_perform (c := c) ⟨b₀, hbuilt, steps, rfl⟩
      ((hbuilt.tells.run hsteps).silent henv) op
    have hrun : b₀.run (steps ++ [(env, op)]) = (perform env (b₀.run steps) op).1 :=
      run_concat b₀ steps (env, op)
    have hlive : c ∈ (b₀.run (steps ++ [(env, op)])).sessions := by
      rw [ExtTreeMap.mem_iff_isSome_getElem?, hsession]
      rfl
    rw [hrun] at hsession
    obtain ⟨hstays, old, hold, hconnected, hgreatest⟩ := hages.live hsession
    rw [SessionStays, entriesSince_begun, ← SessionStays] at hstays
    cases hbefore : (b₀.run steps).sessions[c]? with
    | none =>
      rw [begun_of_none hbefore] at hold
      obtain rfl : Session.begin env.now = old := by simpa using hold
      refine ⟨steps, (env, op), [], rfl, ⟨?_, hlive, hrun ▸ hstays⟩, hconnected, ?_⟩
      · rw [ExtTreeMap.mem_iff_isSome_getElem?, hbefore]
        exact Bool.false_ne_true
      · rw [signs, signs, Set.union_empty]
        exact hgreatest
    | some session' =>
      rw [begun_of_some hbefore, hbefore] at hold
      obtain rfl := Option.some.inj hold
      obtain ⟨earlier, step, later, rfl, hbegan, hconnected', hgreatest'⟩ := ih hsteps hbefore
      refine ⟨earlier, step, later ++ [(env, op)], by simp, hbegan.concat hstays,
        hconnected.trans hconnected', ?_⟩
      rw [← List.cons_append, signs_concat, ← run_append]
      exact isGreatest_insert_trans hgreatest' hgreatest

/-! ## Sweeps -/

/-- No sweep comes too early for a client whose session was active at a time that is no longer ago
than the destination allows. -/
theorem registered?_sweepAt_of_active (hb : b.IsReachable) (hsilent : Silent env b)
    (hd : b.destination? id = some d) (hs : b.registered? id n = some s) {now t : Int}
    (ht : t ≤ lastActivity s b) (hlate : now - t ≤ d.settings.timeoutMinutes * 60000)
    (hfits : Timestamp.Fits now (lastActivity s b)) :
    (sweepAt env now b).1.registered? id n = some s := by
  obtain ⟨strays, haccounted⟩ := hb.accounted
  refine (registered?_sweepAt hsilent fun _ _ _ => id_eq_of_registered? haccounted).mpr ⟨hs, ?_⟩
  rw [hasLapsed_iff_isIdle hfits]
  rintro ⟨settings, hsettings, -, hidle⟩
  rw [hd] at hsettings
  obtain rfl : d.settings = settings := Option.some.inj hsettings
  omega

/-- A subscriber sends a message five seconds later. -/
def replying : List (Environment × Operation) :=
  opening ++ [({ quiet with now := 5000 }, .route note)]

theorem silent_quiet (now : Timestamp) : Environment.IsSilent { quiet with now } := by
  intro cluster hcluster
  cases hcluster

theorem silent_replying : ∀ step ∈ replying, step.1.IsSilent ∧ step.2.IsSilent := by
  simp only [replying, opening, quietly, List.map_cons, List.map_nil, List.cons_append,
    List.nil_append, List.forall_mem_cons]
  exact ⟨⟨silent_quiet 0, trivial⟩, ⟨silent_quiet 0, trivial⟩, ⟨silent_quiet 5000, trivial⟩,
    List.forall_mem_nil _⟩

/-- The subscriber has a session and a subscription. -/
theorem exists_run_replying :
    ∃ (b₀ : Broker) (session : Session) (d : Destination) (s : Subscription), b₀.IsBuilt ∧
      (b₀.run replying).sessions["ann"]? = some session ∧ session.times = (0, 5000) ∧
      (b₀.run replying).destination? "news" = some d ∧ d.settings.timeoutMinutes = 1 ∧
      (b₀.run replying).registered? "news" 1 = some s ∧ s.client = "ann" ∧
      (sweepAt quiet (-2 ^ 63) (b₀.run replying)).1.registered? "news" 1 = none := by
  have hbuilt : IsBuilt _ := ⟨livingSettings 0, _, ⟨true, false, [], []⟩, rfl, rfl⟩
  obtain ⟨b₀, session, d, hbuilt, hsession, htimes, hd, htimeout, hs, hswept⟩ :
      ∃ (b₀ : Broker) (session : Session) (d : Destination), b₀.IsBuilt ∧
        (b₀.run replying).sessions["ann"]? = some session ∧ session.times = (0, 5000) ∧
        (b₀.run replying).destination? "news" = some d ∧ d.settings.timeoutMinutes = 1 ∧
        ((b₀.run replying).registered? "news" 1).map (·.client) = some "ann" ∧
        (sweepAt quiet (-2 ^ 63) (b₀.run replying)).1.registered? "news" 1 = none :=
    ⟨_, _, _, hbuilt, rfl, rfl, rfl, rfl, rfl, rfl⟩
  obtain ⟨s, hs, hclient⟩ := Option.map_eq_some_iff.mp hs
  exact ⟨b₀, session, d, s, hbuilt, hsession, htimes, hd, htimeout, hs, hclient, hswept⟩

end Broker

end MessageBroker
