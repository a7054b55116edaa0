/-
# Who may be taken for whom

A destination with a constraint takes messages only in the name of somebody who is logged in.
The principal that counts is kept in the session of the client, and a session is not kept for
good: it ends with a disconnection, with the last subscription, in a sweep, or because a
handler asks for it, and a new one begins with the next contact. Nobody is logged in then.

So what the gate relies on is a matter of history. A login stands as long as the client was
not logged out and its session has not ended since. Whoever the gate takes a client for is
the one whose login stands, and while one stands no other name can log in.
-/

import Mathlib.Data.List.Induction
import MessageBroker.Proofs.Broker.LastingOperations

open Std

namespace MessageBroker

namespace Broker

variable {env : Environment} {b b' b'' b₀ : Broker} {c c' : ClientId} {p q : Principal}
  {m : Message} {d : Destination}

/-! ## What happens to a session between logins -/

/-- The session of a client has not ended between two moments. -/
def SessionStays (c : ClientId) (b b' : Broker) : Prop :=
  Event.notice (.sessionTerminated c) ∉ entriesSince b b'

theorem sessionStays_of_trans (h : b.journal <+: b'.journal) (h' : b'.journal <+: b''.journal) :
    SessionStays c b b'' ↔ SessionStays c b b' ∧ SessionStays c b' b'' := by
  rw [SessionStays, entriesSince_trans h h', List.mem_append, not_or, SessionStays, SessionStays]

theorem sessionStays_of_journal_eq (h : b'.journal = b.journal) : SessionStays c b b' := by
  rw [SessionStays, entriesSince, h, List.drop_length]
  exact List.not_mem_nil

/-- An entry of the journal makes no difference to a session unless it tells of its end. -/
theorem sessionStays_record {e : Event} (he : e ≠ .notice (.sessionTerminated c)) (b : Broker) :
    SessionStays c b (b.record e) := by
  rw [SessionStays, entriesSince_of_eq_append (show _ = b.journal ++ [e] from rfl),
    List.mem_singleton]
  exact he.symm

theorem sessionTerminated_ne (hc : c' ≠ c) :
    Event.notice (.sessionTerminated c') ≠ .notice (.sessionTerminated c) := by
  intro heq
  injection heq with heq
  injection heq with heq
  exact hc heq

/-- Nobody logs a client in or out: as long as its session does not end, its principal stays,
and when it ends, the principal is gone. -/
structure Credits (c : ClientId) (b b' : Broker) : Prop where
  adds : b.journal <+: b'.journal
  kept : SessionStays c b b' → b'.principal? c = b.principal? c
  present : SessionStays c b b' → b.sessions.contains c = true → b'.sessions.contains c = true
  lost : ¬SessionStays c b b' → b'.principal? c = none

theorem credits_of_journal_eq (hjournal : b'.journal = b.journal)
    (hprincipal : b'.principal? c = b.principal? c)
    (hpresent : b.sessions.contains c = true → b'.sessions.contains c = true) :
    Credits c b b' :=
  ⟨hjournal ▸ List.prefix_rfl, fun _ => hprincipal, fun _ => hpresent,
    fun h => absurd (sessionStays_of_journal_eq hjournal) h⟩

theorem Credits.trans (h : Credits c b b') (h' : Credits c b' b'') : Credits c b b'' := by
  have hboth := sessionStays_of_trans (c := c) h.adds h'.adds
  constructor
  case adds => exact h.adds.trans h'.adds
  case kept =>
    intro hstays
    obtain ⟨hfirst, hthen⟩ := hboth.mp hstays
    rw [h'.kept hthen, h.kept hfirst]
  case present =>
    intro hstays hlive
    obtain ⟨hfirst, hthen⟩ := hboth.mp hstays
    exact h'.present hthen (h.present hfirst hlive)
  case lost =>
    intro hends
    by_cases hthen : SessionStays c b' b''
    · have hfirst : ¬SessionStays c b b' := fun hfirst => hends (hboth.mpr ⟨hfirst, hthen⟩)
      rw [h'.kept hthen, h.lost hfirst]
    · exact h'.lost hthen

theorem principal?_eq_map (b : Broker) (c : ClientId) :
    b.principal? c = ((b.sessions[c]?).map (·.principal)).join := by
  rw [principal?]
  cases b.sessions[c]? <;> rfl

theorem contains_eq_isSome_principal (b : Broker) (c : ClientId) :
    b.sessions.contains c = ((b.sessions[c]?).map (·.principal)).isSome := by
  rw [ExtTreeMap.contains_eq_isSome_getElem?, Option.isSome_map]

theorem credits_of_alike (h : Alike b b') : Credits c b b' := by
  apply credits_of_journal_eq h.journal
  · rw [principal?_eq_map, principal?_eq_map, h.principals]
  · rw [contains_eq_isSome_principal, contains_eq_isSome_principal, h.principals]
    exact id

theorem credits_record {e : Event} (he : e ≠ .notice (.sessionTerminated c)) (b : Broker) :
    Credits c b (b.record e) :=
  ⟨List.prefix_append _ _, fun _ => rfl, fun _ => id,
    fun h => absurd (sessionStays_record he b) h⟩

theorem credits_close (c' : ClientId) (b : Broker) :
    Credits c b ((dropCounters c'
      { b with sessions := b.sessions.erase c', sessionGauge := b.sessionGauge.dec }).record
        (.notice (.sessionTerminated c'))) := by
  let ended : Broker := dropCounters c'
    { b with sessions := b.sessions.erase c', sessionGauge := b.sessionGauge.dec }
  have hsession : ended.sessions[c]? = if c' = c then none else b.sessions[c]? :=
    Maps.getElem?_erase_ite b.sessions c' c
  by_cases hc : c' = c
  · subst hc
    have hends : ¬SessionStays c' b (ended.record (.notice (.sessionTerminated c'))) := by
      rw [SessionStays, entriesSince_of_eq_append (show _ = b.journal ++ [_] from rfl)]
      exact not_not_intro (List.mem_singleton_self _)
    refine ⟨List.prefix_append _ _, fun h => absurd h hends, fun h => absurd h hends, fun _ => ?_⟩
    show (ended.sessions[c']?).bind _ = none
    rw [hsession, if_pos rfl, Option.bind_none]
  · rw [if_neg hc] at hsession
    have hended : Credits c b ended := by
      refine credits_of_journal_eq rfl ?_ ?_
      · rw [principal?, hsession, principal?]
      · rw [ExtTreeMap.contains_eq_isSome_getElem?, ExtTreeMap.contains_eq_isSome_getElem?, hsession]
        exact id
    exact hended.trans (credits_record (sessionTerminated_ne hc) ended)

theorem lasting_credits (c : ClientId) : Lasting (Credits c) := by
  have hsteady : Steady (Credits c) := by
    refine ⟨Credits.trans, credits_of_alike, fun {b e} he => credits_record ?_ b⟩
    rintro rfl
    exact he
  apply hsteady.lasting
  · exact fun _ _ _ _ => credits_of_journal_eq rfl rfl id
  · exact fun {b c' _} _ => credits_close c' b

theorem beginning_credits (c c' : ClientId) : Lasting.Beginning (Credits c) c' := by
  intro b hnone now
  have hsession (c : ClientId) : (b.sessions.insert c' (Session.begin now))[c]? =
      if c' = c then some (Session.begin now) else b.sessions[c]? :=
    Maps.getElem?_insert_ite _ _ _ _
  refine credits_of_journal_eq rfl ?_ ?_
  · rw [principal?, principal?, hsession]
    split
    next heq =>
      rw [← heq, hnone]
      rfl
    next => rfl
  · intro hlive
    rw [ExtTreeMap.contains_insert, hlive, Bool.or_true]

/-- The sessions of other clients make no difference to a client. -/
theorem setting_credits (hc : c' ≠ c) : Lasting.Setting (Credits c) c' := by
  intro b change
  have hsession : (b.onSession c' change).sessions[c]? = b.sessions[c]? := by
    rw [getElem?_sessions_onSession, if_neg hc]
  apply credits_of_journal_eq (journal_onSession b c' change)
  · rw [principal?, hsession, principal?]
  · rw [ExtTreeMap.contains_eq_isSome_getElem?, ExtTreeMap.contains_eq_isSome_getElem?, hsession]
    exact id

theorem entering_credits (c c' : ClientId) : Lasting.Entering (Credits c) c' := by
  intro s b _
  have hprincipal := congrArg (Option.map (·.principal)) (unlisted_enter s b c)
  rw [Option.map_map, Option.map_map] at hprincipal
  have hsame : ((enter s b).1.sessions[c]?).map (·.principal) =
      (b.sessions[c]?).map (·.principal) := hprincipal
  apply credits_of_journal_eq (journal_enter s b)
  · rw [principal?_eq_map, principal?_eq_map, hsame]
  · rw [contains_eq_isSome_principal, contains_eq_isSome_principal, hsame]
    exact id

theorem touching_credits (c c' : ClientId) (now : Timestamp) :
    Lasting.Touching (Credits c) c' now := by
  intro b
  have hsame (s : Session) : (s.touch now).principal = s.principal := rfl
  have hprincipal := map_sessions_onSession (·.principal) hsame b c' c
  rw [← touch] at hprincipal
  apply credits_of_journal_eq
  · exact journal_onSession b c' _
  · rw [principal?_eq_map, principal?_eq_map, hprincipal]
  · rw [contains_eq_isSome_principal, contains_eq_isSome_principal, hprincipal]
    exact id

theorem credits_perform (env : Environment) {op : Operation} (hop : ¬op.SetsPrincipal c)
    (b : Broker) : Credits c b (perform env b op).1 := by
  have hdeliver : Steady.Delivering (Credits c) env.now := fun b c' m =>
    (touching_credits c c' env.now b).trans
      (credits_record (e := .notice (.messageDelivered c' m)) nofun _)
  apply (lasting_credits c).perform (fun c' _ => beginning_credits c c')
  · exact fun c' now _ => touching_credits c c' now
  · exact (lasting_credits c).handing hdeliver fun {_ _ s} _ m b =>
      credits_record (e := .delivery s.client m) nofun b
  · exact fun c' hc' => setting_credits fun heq => hop (heq ▸ hc')
  · exact fun c' _ => entering_credits c c'

/-! ## Logging in and out -/

/-- Nobody makes contact: a client that has a session afterwards had one all the time. -/
def Remains (c : ClientId) (b b' : Broker) : Prop :=
  b.journal <+: b'.journal ∧
    (b'.sessions.contains c = true → b.sessions.contains c = true ∧ SessionStays c b b')

theorem remains_of_journal_eq (hjournal : b'.journal = b.journal)
    (hpresent : b'.sessions.contains c = true → b.sessions.contains c = true) : Remains c b b' :=
  ⟨hjournal ▸ List.prefix_rfl, fun h => ⟨hpresent h, sessionStays_of_journal_eq hjournal⟩⟩

theorem Remains.trans (h : Remains c b b') (h' : Remains c b' b'') : Remains c b b'' := by
  refine ⟨h.1.trans h'.1, fun hlive => ?_⟩
  obtain ⟨hlive', hthen⟩ := h'.2 hlive
  obtain ⟨hlive'', hfirst⟩ := h.2 hlive'
  exact ⟨hlive'', (sessionStays_of_trans h.1 h'.1).mpr ⟨hfirst, hthen⟩⟩

theorem remains_record {e : Event} (he : e ≠ .notice (.sessionTerminated c)) (b : Broker) :
    Remains c b (b.record e) :=
  ⟨List.prefix_append _ _, fun h => ⟨h, sessionStays_record he b⟩⟩

theorem lasting_remains (c : ClientId) : Lasting (Remains c) := by
  have hsteady : Steady (Remains c) := by
    refine ⟨Remains.trans, fun h => remains_of_journal_eq h.journal ?_,
      fun {b e} he => remains_record ?_ b⟩
    · rw [contains_eq_isSome_principal, contains_eq_isSome_principal, h.principals]
      exact id
    · rintro rfl
      exact he
  apply hsteady.lasting
  · exact fun _ _ _ _ => remains_of_journal_eq rfl id
  · intro b c' session hsession
    let ended : Broker := dropCounters c'
      { b with sessions := b.sessions.erase c', sessionGauge := b.sessionGauge.dec }
    have hcontains : ended.sessions.contains c = true → c' ≠ c ∧ b.sessions.contains c = true := by
      simp [ended, dropCounters, ExtTreeMap.contains_erase]
    show Remains c b (ended.record (.notice (.sessionTerminated c')))
    by_cases hc : c' = c
    · exact ⟨List.prefix_append _ _, fun hlive => absurd hc (hcontains hlive).1⟩
    · have hended : Remains c b ended :=
        remains_of_journal_eq rfl fun hlive => (hcontains hlive).2
      exact hended.trans (remains_record (sessionTerminated_ne hc) ended)

/-- A client that makes contact has a session afterwards exactly when no handler ends it at
once. -/
theorem contains_connectIn_iff (env : Environment) (c : ClientId) (b : Broker) :
    (connectIn (b.context env) c b).1.sessions.contains c = true ↔
      SessionStays c b (connectIn (b.context env) c b).1 := by
  have hctx := (lasting_credits c).context env b
  have hctx' := (lasting_remains c).context env b
  generalize b.context env = ctx at hctx hctx' ⊢
  rw [connectIn]
  cases hsession : b.sessions[c]? with
  | some session =>
    have hlive : b.sessions.contains c = true := by
      rw [ExtTreeMap.contains_eq_isSome_getElem?, hsession]
      rfl
    exact iff_of_true hlive (sessionStays_of_journal_eq rfl)
  | none =>
    let begun : Broker :=
      { b with
        sessions := b.sessions.insert c (Session.begin ctx.env.now)
        sessionGauge := b.sessionGauge.inc }
    have hlive : begun.sessions.contains c = true := ExtTreeMap.contains_insert_self
    have hcredits := (lasting_credits c).notify (n := .sessionCreated c) (b := begun) hctx trivial
    have hremains := (lasting_remains c).notify (n := .sessionCreated c) (b := begun) hctx' trivial
    exact ⟨fun h => (hremains.2 h).2, fun h => hcredits.present h hlive⟩

theorem principal?_onSession {session : Session} (hsession : b.sessions[c]? = some session)
    (change : Session → Session) :
    (b.onSession c change).principal? c = (change session).principal := by
  rw [onSession, hsession]
  show ((b.sessions.insert c (change session))[c]?).bind _ = _
  rw [ExtTreeMap.getElem?_insert_self, Option.bind_some]

/-- A login that is refused sets nothing. One that is granted sets the principal and does not
take the place of another name, unless a handler has ended the session at once. -/
theorem login_spec (env : Environment) (c : ClientId) (p : Principal) (b : Broker) :
    ((login env c p b).2 ≠ .ok () → Credits c b (login env c p b).1) ∧
      ((login env c p b).2 = .ok () →
        (SessionStays c b (login env c p b).1 →
          (login env c p b).1.principal? c = some p ∧
            ∀ q, b.principal? c = some q → q.name = p.name) ∧
        (¬SessionStays c b (login env c p b).1 → (login env c p b).1.principal? c = none)) := by
  have hcredits := (lasting_credits c).connectIn (beginning_credits c c)
    ((lasting_credits c).context env b) b
  have hcontains := contains_connectIn_iff env c b
  rw [login]
  dsimp only
  generalize (connectIn (b.context env) c b).1 = b₁ at hcredits hcontains ⊢
  let logged : Broker := b₁.onSession c fun s => { s with principal := some p }.touch env.now
  have hjournal : logged.journal = b₁.journal := journal_onSession _ _ _
  have hstays : SessionStays c b logged ↔ SessionStays c b b₁ := by
    rw [SessionStays, SessionStays, entriesSince, entriesSince, hjournal]
  cases hsession : b₁.sessions[c]? with
  | none =>
    have hends : ¬SessionStays c b b₁ := by
      rw [← hcontains, ExtTreeMap.contains_eq_isSome_getElem?, hsession]
      exact Bool.false_ne_true
    exact ⟨fun _ => hcredits, fun _ => ⟨fun h => absurd h hends, hcredits.lost⟩⟩
  | some session =>
    have hlives : SessionStays c b b₁ := by
      rw [← hcontains, ExtTreeMap.contains_eq_isSome_getElem?, hsession]
      rfl
    have hbefore : b.principal? c = session.principal := by
      rw [← hcredits.kept hlives, principal?, hsession, Option.bind_some]
    have hset : logged.principal? c = some p := principal?_onSession hsession _
    have hgranted (hname : ∀ q, session.principal = some q → q.name = p.name) :
        (SessionStays c b logged → logged.principal? c = some p ∧
          ∀ q, b.principal? c = some q → q.name = p.name) ∧
        (¬SessionStays c b logged → logged.principal? c = none) :=
      ⟨fun _ => ⟨hset, fun q hq => hname q (hbefore ▸ hq)⟩,
        fun h => absurd (hstays.mpr hlives) h⟩
    dsimp only
    cases hprincipal : session.principal with
    | none =>
      refine ⟨fun h => absurd rfl h, fun _ => hgranted fun q hq => ?_⟩
      cases hprincipal.symm.trans hq
    | some q =>
      dsimp only
      by_cases hname : q.name = p.name
      · rw [if_neg (not_not_intro hname)]
        refine ⟨fun h => absurd rfl h, fun _ => hgranted ?_⟩
        rintro q' hq'
        rw [hprincipal] at hq'
        exact Option.some.inj hq' ▸ hname
      · rw [if_pos hname]
        refine ⟨fun _ => hcredits, fun hgranted => ?_⟩
        cases hgranted

/-! ## The history of logins -/

variable {steps pre post mid : List (Environment × Operation)} {step : Environment × Operation}

/-- A login of a client that was granted after some steps, before some others. It stands when
the client has not been logged out since, and its session has not ended. -/
structure LoginStands (b₀ : Broker) (c : ClientId) (pre : List (Environment × Operation))
    (env : Environment) (p : Principal) (post : List (Environment × Operation)) : Prop where
  granted : (login env c p (b₀.run pre)).2 = .ok ()
  noLogout : ∀ step ∈ post, step.2 ≠ .logout c
  stays : SessionStays c (b₀.run pre) (b₀.run (pre ++ (env, .login c p) :: post))

/-- Among steps that follow some others, no login of a client was granted. -/
def NoneGranted (b₀ : Broker) (c : ClientId) (pre post : List (Environment × Operation)) : Prop :=
  ∀ mid env q rest, post = mid ++ (env, .login c q) :: rest →
    (login env c q (b₀.run (pre ++ mid))).2 ≠ .ok ()

theorem run_concat (b : Broker) (steps : List (Environment × Operation))
    (step : Environment × Operation) :
    b.run (steps ++ [step]) = (perform step.1 (b.run steps) step.2).1 :=
  run_append b steps [step]

/-- A place in a list with one more element is the last one or a place in the list. -/
theorem concat_eq_append_cons {α : Type} {l pre post : List α} {a x : α}
    (h : l ++ [a] = pre ++ x :: post) :
    (l = pre ∧ a = x ∧ post = []) ∨ ∃ rest, post = rest ++ [a] ∧ l = pre ++ x :: rest := by
  rcases List.eq_nil_or_concat post with rfl | ⟨rest, y, rfl⟩
  · obtain ⟨hl, ha⟩ := List.append_inj' h rfl
    exact .inl ⟨hl, (List.cons.inj ha).1, rfl⟩
  · rw [List.concat_eq_append, ← List.cons_append, ← List.append_assoc] at h
    obtain ⟨hl, ha⟩ := List.append_inj' h rfl
    obtain rfl := (List.cons.inj ha).1
    exact .inr ⟨rest, List.concat_eq_append, hl⟩

theorem loginStands_concat_iff :
    LoginStands b₀ c pre env p (post ++ [step]) ↔
      LoginStands b₀ c pre env p post ∧ step.2 ≠ .logout c ∧
        SessionStays c (b₀.run (pre ++ (env, .login c p) :: post))
          (b₀.run (pre ++ (env, .login c p) :: post ++ [step])) := by
  let between := pre ++ (env, Operation.login c p) :: post
  have hlist : pre ++ (env, .login c p) :: (post ++ [step]) = between ++ [step] := by
    simp [between]
  have hfirst : (b₀.run pre).journal <+: (b₀.run between).journal := by
    rw [run_append b₀ pre]
    exact prefix_run _ _
  have hthen : (b₀.run between).journal <+: (b₀.run (between ++ [step])).journal := by
    rw [run_append b₀ between]
    exact prefix_run _ _
  have hboth := sessionStays_of_trans (c := c) hfirst hthen
  constructor
  · intro h
    obtain ⟨hstays, hlast⟩ := hboth.mp (hlist ▸ h.stays)
    exact ⟨⟨h.granted, fun s hs => h.noLogout s (List.mem_append_left _ hs), hstays⟩,
      h.noLogout step (List.mem_append_right _ (List.mem_singleton_self _)), hlast⟩
  · rintro ⟨h, hstep, hlast⟩
    refine ⟨h.granted, ?_, hlist ▸ hboth.mpr ⟨h.stays, hlast⟩⟩
    intro s hs
    rcases List.mem_append.mp hs with hs | hs
    · exact h.noLogout s hs
    · exact List.mem_singleton.mp hs ▸ hstep

theorem NoneGranted.concat (h : NoneGranted b₀ c pre post)
    (hstep : ∀ q, step.2 = .login c q → (login step.1 c q (b₀.run (pre ++ post))).2 ≠ .ok ()) :
    NoneGranted b₀ c pre (post ++ [step]) := by
  intro mid env q rest hsplit
  rcases concat_eq_append_cons hsplit with ⟨rfl, rfl, -⟩ | ⟨rest', -, hpost⟩
  · exact hstep q rfl
  · exact h mid env q rest' hpost

/-- A client's principal is that of its latest granted login, which stands, and every login of
the client that stands has its name. -/
structure Accredits (b₀ : Broker) (c : ClientId) (steps : List (Environment × Operation)) :
    Prop where
  source : ∀ {p}, (b₀.run steps).principal? c = some p → ∃ pre env post,
    steps = pre ++ (env, .login c p) :: post ∧ LoginStands b₀ c pre env p post ∧
      NoneGranted b₀ c (pre ++ [(env, .login c p)]) post
  names : ∀ {pre env q post}, steps = pre ++ (env, .login c q) :: post →
    LoginStands b₀ c pre env q post → ∃ p, (b₀.run steps).principal? c = some p ∧ q.name = p.name

/-- A step that neither logs a client out nor grants it a login keeps its principal and its
logins standing, or ends its session and with it both. -/
theorem Accredits.keep (h : Accredits b₀ c steps)
    (hcredits : Credits c (b₀.run steps) (b₀.run (steps ++ [step])))
    (hlogout : step.2 ≠ .logout c)
    (hrefused : ∀ q, step.2 = .login c q → (login step.1 c q (b₀.run steps)).2 ≠ .ok ()) :
    Accredits b₀ c (steps ++ [step]) := by
  constructor
  case source =>
    intro p hp
    have hstays : SessionStays c (b₀.run steps) (b₀.run (steps ++ [step])) := by
      by_contra hends
      rw [hcredits.lost hends] at hp
      cases hp
    rw [hcredits.kept hstays] at hp
    obtain ⟨pre, env, post, rfl, hstands, hnone⟩ := h.source hp
    refine ⟨pre, env, post ++ [step], by simp,
      loginStands_concat_iff.mpr ⟨hstands, hlogout, hstays⟩, hnone.concat ?_⟩
    intro q hq
    rw [List.append_assoc, List.singleton_append]
    exact hrefused q hq
  case names =>
    intro pre env q post hsplit hstands
    rcases concat_eq_append_cons hsplit with ⟨rfl, rfl, -⟩ | ⟨rest, rfl, rfl⟩
    · exact absurd hstands.granted (hrefused q rfl)
    · obtain ⟨hbefore, -, hstays⟩ := loginStands_concat_iff.mp hstands
      rw [hcredits.kept hstays]
      exact h.names rfl hbefore

theorem accredits_logout : Accredits b₀ c (steps ++ [(env, .logout c)]) := by
  have hout : (b₀.run (steps ++ [(env, .logout c)])).principal? c = none := by
    rw [run_concat]
    show (logout c (b₀.run steps)).principal? c = none
    rw [logout]
    cases hsession : (b₀.run steps).sessions[c]? with
    | none => rw [onSession, hsession, principal?, hsession, Option.bind_none]
    | some session => exact principal?_onSession hsession _
  constructor
  case source =>
    intro p hp
    rw [hout] at hp
    cases hp
  case names =>
    intro pre env' q post hsplit hstands
    rcases concat_eq_append_cons hsplit with ⟨-, hsame, -⟩ | ⟨rest, rfl, -⟩
    · cases hsame
    · exact absurd rfl (loginStands_concat_iff.mp hstands).2.1

theorem Accredits.of_granted (h : Accredits b₀ c steps)
    (hgranted : (login env c p (b₀.run steps)).2 = .ok ()) :
    Accredits b₀ c (steps ++ [(env, .login c p)]) := by
  obtain ⟨hkept, hlost⟩ := (login_spec env c p (b₀.run steps)).2 hgranted
  have hrun : b₀.run (steps ++ [(env, .login c p)]) = (login env c p (b₀.run steps)).1 :=
    run_concat b₀ steps (env, .login c p)
  rw [← hrun] at hkept hlost
  constructor
  case source =>
    intro q hq
    have hstays : SessionStays c (b₀.run steps) (b₀.run (steps ++ [(env, .login c p)])) := by
      by_contra hends
      rw [hlost hends] at hq
      cases hq
    rw [(hkept hstays).1] at hq
    obtain rfl := Option.some.inj hq
    have hstands : LoginStands b₀ c steps env p [] :=
      ⟨hgranted, fun _ hmem => absurd hmem List.not_mem_nil, hstays⟩
    refine ⟨steps, env, [], rfl, hstands, ?_⟩
    intro mid env' q rest hsplit
    cases mid <;> cases hsplit
  case names =>
    intro pre env' q post hsplit hstands
    rcases concat_eq_append_cons hsplit with ⟨rfl, hsame, rfl⟩ | ⟨rest, rfl, rfl⟩
    · cases hsame
      exact ⟨p, (hkept hstands.stays).1, rfl⟩
    · obtain ⟨hbefore, -, hstays⟩ := loginStands_concat_iff.mp hstands
      obtain ⟨q', hq', hname⟩ := h.names rfl hbefore
      exact ⟨p, (hkept hstays).1, hname.trans ((hkept hstays).2 q' hq')⟩

theorem IsBuilt.sessions (h : b₀.IsBuilt) : b₀.sessions = ∅ := by
  obtain ⟨raw, settings, equipment, -, hbuild⟩ := h
  obtain ⟨destinations, -, rfl⟩ := destinations_of_build hbuild
  rfl

/-- Throughout a run, the principal of a client is accounted for by its logins. -/
theorem accredits_run (hbuilt : b₀.IsBuilt) (c : ClientId)
    (steps : List (Environment × Operation)) : Accredits b₀ c steps := by
  induction steps using List.reverseRecOn with
  | nil =>
    constructor
    case source =>
      intro p hp
      rw [run, List.foldl_nil, principal?, hbuilt.sessions] at hp
      simp at hp
    case names =>
      intro pre env q post hsplit
      cases pre <;> cases hsplit
  | append_singleton steps step ih =>
    obtain ⟨env, op⟩ := step
    by_cases hset : op.SetsPrincipal c
    · cases op with
      | login c' p =>
        obtain rfl : c' = c := hset
        by_cases hgranted : (login env c' p (b₀.run steps)).2 = .ok ()
        · exact ih.of_granted hgranted
        · apply ih.keep
          · rw [run_concat]
            exact (login_spec env c' p (b₀.run steps)).1 hgranted
          · exact nofun
          · intro q hq
            cases hq
            exact hgranted
      | logout c' =>
        obtain rfl : c' = c := hset
        exact accredits_logout
      | _ => exact hset.elim
    · apply ih.keep
      · rw [run_concat]
        exact credits_perform env hset _
      · rintro rfl
        exact hset rfl
      · rintro q rfl
        exact absurd rfl hset

/-! ## What the gate relies on -/

theorem satisfied_of_passGate {ts : List Subtopic} (h : (passGate env m b).2 = .ok (d, ts)) :
    Satisfied env .send d (b.principal? m.client) := by
  rw [passGate] at h
  split at h
  · cases h
  next d' hd' =>
    have hauthorize := (authorize_spec env .send d' (b.principal? m.client) b).2
    dsimp only at h
    rw [authorizeSend] at h
    split at h
    · cases h
    next heq =>
      obtain ⟨ts', -, hrest⟩ := Except.exists_of_bind_eq_ok h
      obtain ⟨_, -, hsame⟩ := Except.exists_of_bind_eq_ok hrest
      cases hsame
      exact hauthorize.mp (by rw [heq])

/-- Whenever more is done about a message of a client than to ask the authorizer about roles,
and its destination has a constraint on sending, then the client has a principal, from a login
that stands: since that login was granted, the client was not logged out and its session has
not ended. No later login of the client was granted, all its logins that stand have the same
name, and the constraint asks for no roles or the authorizer finds the principal good
enough. -/
theorem routeMessage_authentic (hbuilt : b₀.IsBuilt) (steps : List (Environment × Operation))
    (env : Environment) (m : Message) {d : Destination} {k : Constraint}
    (hd : (b₀.run steps).destination? m.destination = some d) (hk : d.sendConstraint = some k)
    (hpassed : ¬OnlyAsked (b₀.run steps) (routeMessage env m (b₀.run steps)).1) :
    ∃ p, (b₀.run steps).principal? m.client = some p ∧
      (∃ pre env' post, steps = pre ++ (env', .login m.client p) :: post ∧
        LoginStands b₀ m.client pre env' p post ∧
        NoneGranted b₀ m.client (pre ++ [(env', .login m.client p)]) post) ∧
      (∀ pre env' q post, steps = pre ++ (env', .login m.client q) :: post →
        LoginStands b₀ m.client pre env' q post → q.name = p.name) ∧
      (k.roles = [] ∨ env.authorizer.satisfies p k.roles = .ok true) := by
  have haccredits := accredits_run hbuilt m.client steps
  generalize hb : b₀.run steps = b at hd hpassed ⊢
  cases hgate : (passGate env m b).2 with
  | error e =>
    rw [routeMessage_of_error hgate] at hpassed
    exact absurd (onlyAsked_passGate env m b) hpassed
  | ok located =>
    obtain ⟨d', ts⟩ := located
    obtain ⟨hd', -, -⟩ := locate_eq_ok (locate_of_passGate hgate)
    obtain rfl := Option.some.inj (hd'.symm.trans hd)
    obtain ⟨p, hp, hroles⟩ := satisfied_of_passGate hgate k hk
    refine ⟨p, hp, haccredits.source (hb ▸ hp), ?_, hroles⟩
    intro pre env' q post hsplit hstands
    obtain ⟨p', hp', hname⟩ := haccredits.names hsplit hstands
    rw [hb, hp] at hp'
    exact Option.some.inj hp' ▸ hname

/-- The settings of a node to which only those may send who carry a role. -/
def guardedSettings : Settings :=
  (Settings.standard.addDestination
    { DestinationSettings.standard "news" with sendConstraint := some "staff" }).addConstraint
      ⟨"staff", .custom, ["editor"]⟩

/-- A client logs in and disconnects. It logs in as somebody else, and a third name is
refused. -/
def relogging : List (Environment × Operation) :=
  quietly
    [.start, .login "ann" ⟨"guest", []⟩, .disconnect "ann", .login "ann" ⟨"eve", ["editor"]⟩,
      .login "ann" ⟨"adam", ["editor"]⟩]

theorem routeMessage_authentic_news :
    ∃ b₀ : Broker, b₀.IsBuilt ∧ (routeMessage quiet note (b₀.run relogging)).2 =
        .ok ⟨.delivered, 0, 0, 0, 0, 0, false⟩ ∧
      ∃ pre env post, relogging = pre ++ (env, .login "ann" ⟨"eve", ["editor"]⟩) :: post ∧
        LoginStands b₀ "ann" pre env ⟨"eve", ["editor"]⟩ post := by
  obtain ⟨b₀, d, hbuilt, hd, hk, hprincipal, hroute, hcount⟩ :
      ∃ (b₀ : Broker) (d : Destination), b₀.IsBuilt ∧
        (b₀.run relogging).destination? "news" = some d ∧
        d.sendConstraint = some ⟨"staff", .custom, ["editor"]⟩ ∧
        (b₀.run relogging).principal? "ann" = some ⟨"eve", ["editor"]⟩ ∧
        (routeMessage quiet note (b₀.run relogging)).2 =
          .ok ⟨.delivered, 0, 0, 0, 0, 0, false⟩ ∧
        (routeMessage quiet note (b₀.run relogging)).1.destinations.map (·.totals.received) ≠
          (b₀.run relogging).destinations.map (·.totals.received) := by
    have hbuilt : IsBuilt _ := ⟨guardedSettings, _, ⟨true, false, [], []⟩, rfl, rfl⟩
    exact ⟨_, _, hbuilt, rfl, rfl, rfl, rfl, by decide⟩
  have hpassed : ¬OnlyAsked (b₀.run relogging) (routeMessage quiet note (b₀.run relogging)).1 := by
    rintro ⟨asked, -, heq⟩
    rw [heq] at hcount
    exact hcount rfl
  obtain ⟨p, hp, ⟨pre, env, post, hsplit, hstands, -⟩, -⟩ :=
    routeMessage_authentic hbuilt relogging quiet note hd hk hpassed
  obtain rfl := Option.some.inj (hprincipal.symm.trans hp)
  exact ⟨b₀, hbuilt, hroute, pre, env, post, hsplit, hstands⟩

end Broker

end MessageBroker
