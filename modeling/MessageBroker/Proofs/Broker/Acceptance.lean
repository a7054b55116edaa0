/-
# Which settings are accepted, and which brokers can be built

The rules of a destination are checked when settings are accepted, and once more when the
destination is made: its settings are validated again, its adapter asks again for a name, and
its limiter validates the throttle a third time. The rules stand here on their own, without the
order in which they are checked. Settings are accepted exactly when they are sound, and of
accepted settings no later check can find fault, so that only what the settings ask for from
outside decides whether a broker can be built: a transport, a cluster, and adapters by name.
-/

import MessageBroker.Proofs.Broker.Gate
import MessageBroker.Proofs.Broker.Recipients
import MessageBroker.Proofs.Broker.Statistics

open Std

namespace MessageBroker

namespace Except

variable {ε δ α β : Type} {f : α → Except ε β} {l : List α}

/-- A traversal answers exactly when every element has an answer. -/
theorem exists_mapM_eq_ok_iff : (∃ l', l.mapM f = .ok l') ↔ ∀ x ∈ l, ∃ y, f x = .ok y := by
  constructor
  · rintro ⟨l', hl'⟩ x hx
    obtain ⟨y, -, hy⟩ := exists_answer_of_mapM_eq_ok hl' hx
    exact ⟨y, hy⟩
  · intro hall
    cases hl : l.mapM f with
    | ok l' => exact ⟨l', rfl⟩
    | error e =>
      obtain ⟨before, x, after, rfl, -, hx⟩ := mapM_eq_error_iff.mp hl
      obtain ⟨y, hy⟩ := hall x (by simp)
      rw [hx] at hy
      cases hy

/-- A list passes a check exactly when every element does. -/
theorem forM_eq_ok_iff {g : α → Except ε Unit} : l.forM g = .ok () ↔ ∀ x ∈ l, g x = .ok () := by
  induction l with
  | nil => exact ⟨fun _ => nofun, fun _ => rfl⟩
  | cons x l ih =>
    rw [List.forall_mem_cons, ← ih]
    show (g x >>= fun _ => l.forM g) = _ ↔ _
    cases hx : g x <;> simp [bind, Except.bind]

theorem exists_of_mapError_eq_error {x : Except ε α} {g : ε → δ} {e : δ}
    (h : x.mapError g = .error e) : ∃ e', x = .error e' ∧ e = g e' := by
  cases x with
  | ok y => cases h
  | error e' =>
    cases h
    exact ⟨e', rfl, rfl⟩

/-- Where two steps fail, the first fails, or the second does on an answer of the first. -/
theorem bind_eq_error {x : Except ε α} {g : α → Except ε β} {e : ε}
    (h : (x >>= g) = .error e) : x = .error e ∨ ∃ y, x = .ok y ∧ g y = .error e := by
  cases x with
  | error e' =>
    cases h
    exact .inl rfl
  | ok y => exact .inr ⟨y, rfl, h⟩

end Except

/-- The rules of throttle settings in use: the limit of one client is not above a limit of the
whole destination, and recipients are never refused with an error. -/
structure ThrottleSettings.Consistent (s : ThrottleSettings) : Prop where
  outbound : s.outbound.policy ≠ .error
  client_le : ∀ d, (s.get d).destination = 0 ∨ (s.get d).client ≤ (s.get d).destination

/-- The rules that the settings of a destination keep when it goes by a name. -/
structure DestinationSettings.Sound (constraints : ExtTreeMap String Constraint)
    (id : DestinationId) (s : DestinationSettings) : Prop where
  name : id ≠ ""
  separator : s.separator ≠ '*' ∧ Text.isBlank s.separator = false ∧
    Text.isControl s.separator = false
  throttle : s.throttle.Consistent
  adapterRef : s.adapter = .jms ∨ s.adapter = .custom →
    ∃ name, s.adapterRef = some name ∧ name ≠ ""
  constraints : ∀ name, s.sendConstraint = some name ∨ s.subscribeConstraint = some name →
    name ∈ constraints

/-- The rules that settings keep, where destinations go by the keys they stand under. -/
structure Settings.Sound (s : Settings) : Prop where
  window : s.window.ms ≠ 0
  sweepInterval : s.sweepInterval.ms ≠ 0
  destinations : ∀ (id : DestinationId) (d : DestinationSettings),
    s.destinations[id]? = some d → d.Sound s.constraints id

/-- Whether there is what a destination works with: a cluster for a destination that is shared
between nodes, and the bridge or the adapter of the application that it names. -/
structure Equipment.Serves (e : Equipment) (s : DestinationSettings) : Prop where
  cluster : s.routingMode ≠ .none → e.cluster = true
  bridge : s.adapter = .jms → ∃ name ∈ e.bridges, s.adapterRef = some name
  custom : s.adapter = .custom → ∃ name ∈ e.customs, s.adapterRef = some name

/-- Whether there is what the broker of settings works with. -/
structure Equipment.Suits (e : Equipment) (s : Settings) : Prop where
  transport : e.transport = true
  serves : ∀ (id : DestinationId) (d : DestinationSettings),
    s.destinations[id]? = some d → e.Serves d

namespace ThrottleSettings

theorem checkPolicy_outbound_eq_ok_iff {p : Policy} :
    checkPolicy .outbound p = .ok () ↔ p ≠ .error := by
  cases p <;> decide

theorem checkClient_eq_ok_iff {d : Direction} {client destination : Nat} :
    checkClient d client destination = .ok () ↔ destination = 0 ∨ client ≤ destination := by
  unfold checkClient
  split
  next habove => exact ⟨nofun, fun h => absurd h (by omega)⟩
  next hbelow => exact ⟨fun _ => by omega, fun _ => rfl⟩

theorem validate_eq_ok_iff {s : ThrottleSettings} : s.validate = .ok () ↔ s.Consistent := by
  unfold validate
  constructor
  · intro h
    obtain ⟨_, hpolicy, hclients⟩ := Except.exists_of_bind_eq_ok h
    obtain ⟨_, hinbound, houtbound⟩ := Except.exists_of_bind_eq_ok hclients
    refine ⟨checkPolicy_outbound_eq_ok_iff.mp hpolicy, fun d => ?_⟩
    cases d with
    | inbound => exact checkClient_eq_ok_iff.mp hinbound
    | outbound => exact checkClient_eq_ok_iff.mp houtbound
  · intro h
    have hinbound : checkClient .inbound s.inbound.client s.inbound.destination = .ok () :=
      checkClient_eq_ok_iff.mpr (h.client_le .inbound)
    have houtbound : checkClient .outbound s.outbound.client s.outbound.destination = .ok () :=
      checkClient_eq_ok_iff.mpr (h.client_le .outbound)
    rw [checkPolicy_outbound_eq_ok_iff.mpr h.outbound, hinbound, houtbound]
    rfl

end ThrottleSettings

namespace DestinationSettings

variable {constraints : ExtTreeMap String Constraint} {id : DestinationId}
  {s : DestinationSettings}

theorem isSeparator_iff {c : Char} : isSeparator c = true ↔
    c ≠ '*' ∧ Text.isBlank c = false ∧ Text.isControl c = false := by
  simp [isSeparator, and_assoc]

theorem lacks_adapterRef_iff : (s.adapter ≠ .plain ∧ s.adapterRef.getD "" = "") ↔
    ¬(s.adapter = .jms ∨ s.adapter = .custom → ∃ name, s.adapterRef = some name ∧ name ≠ "") := by
  cases s.adapter <;> cases s.adapterRef <;> simp

theorem find?_constraintNames_eq_none_iff :
    (s.constraintNames.find? fun name => !constraints.contains name) = none ↔
      ∀ name, s.sendConstraint = some name ∨ s.subscribeConstraint = some name →
        name ∈ constraints := by
  simp [constraintNames, or_imp, forall_and]

/-- The checks of a destination pass exactly when its settings are sound under its name. -/
theorem validate_eq_ok_iff : s.validate constraints = .ok () ↔ s.Sound constraints s.id := by
  unfold validate check
  constructor
  · intro h
    split at h
    · cases h
    next hid =>
    have hcheck := Except.ok_of_mapError_eq_ok h
    split at hcheck
    · cases hcheck
    next hseparator =>
    split at hcheck
    · cases hcheck
    next hthrottle =>
    split at hcheck
    · cases hcheck
    next hadapter =>
    split at hcheck
    · cases hcheck
    next hconstraints =>
    rw [lacks_adapterRef_iff, not_not] at hadapter
    exact
      { name := hid
        separator := isSeparator_iff.mp (by simpa using hseparator)
        throttle := ThrottleSettings.validate_eq_ok_iff.mp hthrottle
        adapterRef := hadapter
        constraints := find?_constraintNames_eq_none_iff.mp hconstraints }
  · intro h
    have hadapter := lacks_adapterRef_iff.not.mpr (not_not.mpr h.adapterRef)
    rw [if_neg h.name, isSeparator_iff.mpr h.separator,
      ThrottleSettings.validate_eq_ok_iff.mpr h.throttle]
    simp only [Bool.not_true, Bool.false_eq_true, if_false, if_neg hadapter,
      find?_constraintNames_eq_none_iff.mpr h.constraints]
    rfl

/-- Soundness is about the name a destination goes by, not the one that is written in it, and
of the constraints only the names matter. -/
theorem Sound.rename (h : s.Sound constraints id) (name : DestinationId)
    {constraints' : ExtTreeMap String Constraint}
    (hdefined : ∀ c, c ∈ constraints → c ∈ constraints') :
    ({ s with id := name } : DestinationSettings).Sound constraints' id :=
  ⟨h.name, h.separator, h.throttle, h.adapterRef, fun c hc => hdefined c (h.constraints c hc)⟩

end DestinationSettings

namespace Settings

/-- Whether every destination carries the key it stands under. -/
def IsNamed (s : Settings) : Prop :=
  ∀ (id : DestinationId) (d : DestinationSettings), s.destinations[id]? = some d → d.id = id

variable {raw s : Settings} {id : DestinationId} {d : DestinationSettings}

theorem getElem?_destinations_named (id : DestinationId) : raw.named.destinations[id]? =
    raw.destinations[id]?.map fun d => { d with id } := by
  simp [named]

theorem getElem?_constraints_named (name : String) : raw.named.constraints[name]? =
    raw.constraints[name]?.map fun c => { c with id := name } := by
  simp [named]

theorem isNamed_named : raw.named.IsNamed := by
  intro id d hd
  rw [getElem?_destinations_named] at hd
  obtain ⟨d', -, rfl⟩ := Option.map_eq_some_iff.mp hd
  rfl

theorem sound_named : raw.named.Sound ↔ raw.Sound := by
  have hdefined (c : String) : c ∈ raw.named.constraints ↔ c ∈ raw.constraints := by
    simp [named]
  constructor
  · rintro ⟨hwindow, hsweep, hall⟩
    refine ⟨hwindow, hsweep, fun id d hd => ?_⟩
    have hnamed : raw.named.destinations[id]? = some { d with id } := by
      rw [getElem?_destinations_named, hd]
      rfl
    -- Renamed once more, to the name it had, the destination is what it was.
    exact (hall id _ hnamed).rename d.id fun c => (hdefined c).mp
  · rintro ⟨hwindow, hsweep, hall⟩
    refine ⟨hwindow, hsweep, fun id d hd => ?_⟩
    rw [getElem?_destinations_named] at hd
    obtain ⟨d', hd', rfl⟩ := Option.map_eq_some_iff.mp hd
    exact (hall id d' hd').rename id fun c => (hdefined c).mpr

/-- Settings whose destinations know their keys pass the checks exactly when they are sound. -/
theorem validate_eq_ok_iff (hids : s.IsNamed) :
    s.validate = .ok () ↔ s.Sound := by
  have hall : s.destinations.values.forM (·.validate s.constraints) = .ok () ↔
      ∀ (id : DestinationId) (d : DestinationSettings),
        s.destinations[id]? = some d → d.Sound s.constraints id := by
    rw [Except.forM_eq_ok_iff]
    constructor
    · intro h id d hd
      have hd' := DestinationSettings.validate_eq_ok_iff.mp
        (h d (Maps.mem_values_iff.mpr ⟨id, hd⟩))
      rwa [hids id d hd] at hd'
    · intro h d hd
      obtain ⟨id, hget⟩ := Maps.mem_values_iff.mp hd
      refine DestinationSettings.validate_eq_ok_iff.mpr ?_
      rw [hids id d hget]
      exact h id d hget
  unfold validate
  constructor
  · intro h
    split at h
    · cases h
    next hwindow =>
    split at h
    · cases h
    next hsweep =>
    exact ⟨by simpa [Span.isZero] using hwindow, by simpa [Span.isZero] using hsweep,
      hall.mp h⟩
  · rintro ⟨hwindow, hsweep, hsound⟩
    rw [if_neg (by simpa [Span.isZero] using hwindow),
      if_neg (by simpa [Span.isZero] using hsweep)]
    exact hall.mpr hsound

/-- What is accepted are sound settings, with every name filled in. -/
theorem accept_eq_ok_iff : raw.accept = .ok s ↔ raw.Sound ∧ s = raw.named := by
  rw [← sound_named, ← validate_eq_ok_iff isNamed_named]
  constructor
  · intro h
    obtain ⟨_, hvalid, hsame⟩ := Except.exists_of_bind_eq_ok h
    cases hsame
    exact ⟨hvalid, rfl⟩
  · rintro ⟨hvalid, rfl⟩
    rw [accept, hvalid]
    rfl

theorem sound_of_accept (h : raw.accept = .ok s) : s.Sound := by
  obtain ⟨hsound, rfl⟩ := accept_eq_ok_iff.mp h
  exact sound_named.mpr hsound

end Settings

namespace Equipment

variable {e : Equipment} {s : DestinationSettings} {name : String}

theorem adapterFor_of_jms (hkind : s.adapter = .jms) (hname : s.adapterRef = some name)
    (hne : name ≠ "") : e.adapterFor s =
      if name ∈ e.bridges then .ok (.bridge name) else .error (.unknownBridge s.id name) := by
  unfold adapterFor
  rw [hkind, hname, Option.getD_some]
  split <;> simp_all

theorem adapterFor_of_custom (hkind : s.adapter = .custom) (hname : s.adapterRef = some name)
    (hne : name ≠ "") : e.adapterFor s =
      if name ∈ e.customs then .ok (.custom name) else .error (.unknownAdapter s.id name) := by
  unfold adapterFor
  rw [hkind, hname, Option.getD_some]
  split <;> simp_all

/-- An adapter is found for a destination that names one where it needs one, if there is one
of that name. -/
theorem exists_adapterFor_eq_ok_iff (href : s.adapter = .jms ∨ s.adapter = .custom →
    ∃ name, s.adapterRef = some name ∧ name ≠ "") :
    (∃ a, e.adapterFor s = .ok a) ↔
      (s.adapter = .jms → ∃ name ∈ e.bridges, s.adapterRef = some name) ∧
        (s.adapter = .custom → ∃ name ∈ e.customs, s.adapterRef = some name) := by
  cases hkind : s.adapter with
  | plain => simp [adapterFor, hkind]
  | jms =>
    obtain ⟨name, hname, hne⟩ := href (.inl hkind)
    by_cases hmem : name ∈ e.bridges <;>
      simp [adapterFor_of_jms hkind hname hne, hname, hmem]
  | custom =>
    obtain ⟨name, hname, hne⟩ := href (.inr hkind)
    by_cases hmem : name ∈ e.customs <;>
      simp [adapterFor_of_custom hkind hname hne, hname, hmem]

theorem category_of_adapterFor {err : BrokerError} (h : e.adapterFor s = .error err) :
    err.category = .configuration := by
  unfold adapterFor at h
  split at h
  · cases h
  · cases h
    rfl
  all_goals
    split at h
    · cases h
    · cases h
      rfl

end Equipment

namespace Broker

variable {settings raw : Settings} {e : Equipment} {s : DestinationSettings}
  {id : DestinationId} {b : Broker} {err : BrokerError}

/-- A destination with sound settings is made whenever there is what it works with: neither
the second validation nor that of its limiter fails. -/
theorem exists_buildDestination_eq_ok_iff (hsound : s.Sound settings.constraints s.id) :
    (∃ d, buildDestination settings e s = .ok d) ↔ e.Serves s := by
  have hvalid := DestinationSettings.validate_eq_ok_iff.mpr hsound
  have hadapter := e.exists_adapterFor_eq_ok_iff hsound.adapterRef
  unfold buildDestination
  constructor
  · rintro ⟨d, hd⟩
    split at hd
    · cases hd
    next hcluster =>
    obtain ⟨_, -, hrest⟩ := Except.exists_of_bind_eq_ok hd
    obtain ⟨a, ha, -⟩ := Except.exists_of_bind_eq_ok hrest
    have hfound := hadapter.mp ⟨a, ha⟩
    exact ⟨fun hmode => by simpa [hmode] using hcluster, hfound.1, hfound.2⟩
  · rintro ⟨hcluster, hbridge, hcustom⟩
    obtain ⟨a, ha⟩ := hadapter.mpr ⟨hbridge, hcustom⟩
    have hshared : ¬(s.routingMode ≠ .none ∧ (!e.cluster) = true) := by
      rintro ⟨hmode, hnone⟩
      rw [hcluster hmode] at hnone
      cases hnone
    -- The checks that come again have passed before, so nothing is left to fail.
    rw [if_neg hshared, Destination.create, hvalid, ha, Limiter.create,
      ThrottleSettings.validate_eq_ok_iff.mpr hsound.throttle]
    exact ⟨_, rfl⟩

theorem category_of_buildDestination (h : buildDestination settings e s = .error err) :
    err.category = .configuration := by
  unfold buildDestination at h
  split at h
  · cases h
    rfl
  · rcases Except.bind_eq_error h with hvalid | ⟨_, -, hrest⟩
    · obtain ⟨_, -, rfl⟩ := Except.exists_of_mapError_eq_error hvalid
      rfl
    rcases Except.bind_eq_error hrest with hadapter | ⟨_, -, hrest⟩
    · exact Equipment.category_of_adapterFor hadapter
    rcases Except.bind_eq_error hrest with hlimiter | ⟨_, -, hrest⟩
    · obtain ⟨_, -, rfl⟩ := Except.exists_of_mapError_eq_error hlimiter
      rfl
    cases hrest

theorem category_of_build (h : build settings e = .error err) :
    err.category = .configuration := by
  unfold build at h
  split at h
  · cases h
    rfl
  · rcases Except.bind_eq_error h with hall | ⟨_, -, hrest⟩
    · obtain ⟨_, s, _, -, -, hs⟩ := Except.mapM_eq_error_iff.mp hall
      exact category_of_buildDestination hs
    · cases hrest

theorem transport_of_build (h : build settings e = .ok b) : e.transport = true := by
  unfold build at h
  split at h
  · cases h
  next htransport => simpa using htransport

/-- A broker of sound settings is built exactly when there is what it works with. -/
theorem exists_build_eq_ok_iff (hsound : settings.Sound)
    (hids : settings.IsNamed) :
    (∃ b, build settings e = .ok b) ↔ e.Suits settings := by
  have hall : (∃ ds, settings.destinations.values.mapM (buildDestination settings e) = .ok ds) ↔
      ∀ (id : DestinationId) (d : DestinationSettings),
        settings.destinations[id]? = some d → e.Serves d := by
    rw [Except.exists_mapM_eq_ok_iff]
    have hbuilt : ∀ (id : DestinationId) (d : DestinationSettings),
        settings.destinations[id]? = some d →
        ((∃ d', buildDestination settings e d = .ok d') ↔ e.Serves d) := by
      intro id d hd
      apply exists_buildDestination_eq_ok_iff
      rw [hids id d hd]
      exact hsound.destinations id d hd
    constructor
    · exact fun h id d hd => (hbuilt id d hd).mp (h d (Maps.mem_values_iff.mpr ⟨id, hd⟩))
    · intro h d hd
      obtain ⟨id, hget⟩ := Maps.mem_values_iff.mp hd
      exact (hbuilt id d hget).mpr (h id d hget)
  constructor
  · rintro ⟨b, hb⟩
    obtain ⟨ds, hds, -⟩ := destinations_of_build hb
    exact ⟨transport_of_build hb, hall.mp ⟨ds, hds⟩⟩
  · rintro ⟨htransport, hserves⟩
    obtain ⟨ds, hds⟩ := hall.mpr hserves
    rw [build, htransport, hds]
    exact ⟨_, rfl⟩

/-- Whether a broker has one destination for each destination of settings, and no other. -/
structure Hosts (b : Broker) (s : Settings) : Prop where
  distinct : b.destinationIds.Nodup
  ids : ∀ id, id ∈ b.destinationIds ↔ id ∈ s.destinations
  configured : ∀ d ∈ b.destinations, s.destinations[d.id]? = some d.settings

theorem hosts_of_build (haccept : raw.accept = .ok settings)
    (hbuild : build settings e = .ok b) : b.Hosts settings := by
  obtain ⟨ds, hds, rfl⟩ := destinations_of_build hbuild
  have hids : ds.map (·.id) = settings.destinations.values.map (·.id) :=
    Except.map_eq_of_mapM_eq_ok
      (fun _ _ hd => congrArg Shelf.id (shelf_of_buildDestination hd).1) hds
  have hconfigured : ∀ d ∈ ds, settings.destinations[d.id]? = some d.settings := by
    intro d hd
    obtain ⟨s, hs, hanswer⟩ := Except.exists_of_mem_of_mapM_eq_ok hds hd
    obtain ⟨id, hget⟩ := Maps.mem_values_iff.mp hs
    have hid : d.id = s.id := congrArg Shelf.id (shelf_of_buildDestination hanswer).1
    have hsettings : d.settings = s := congrArg Sheet.settings (sheet_of_buildDestination hanswer)
    rw [hid, hsettings, Settings.id_eq_of_accept haccept hget]
    exact hget
  refine ⟨?_, fun id => ?_, hconfigured⟩
  · show (ds.map (·.id)).Nodup
    rw [hids]
    exact Settings.nodup_ids_of_accept haccept
  · show id ∈ ds.map (·.id) ↔ _
    constructor
    · intro hid
      obtain ⟨d, hd, rfl⟩ := List.mem_map.mp hid
      exact ExtTreeMap.mem_iff_isSome_getElem?.mpr (Option.isSome_of_mem (hconfigured d hd))
    · intro hid
      obtain ⟨s, hs⟩ := Option.isSome_iff_exists.mp (ExtTreeMap.mem_iff_isSome_getElem?.mp hid)
      rw [hids, ← Settings.id_eq_of_accept haccept hs]
      exact List.mem_map_of_mem (Maps.mem_values_iff.mpr ⟨id, hs⟩)

/-- Settings are accepted exactly when they are sound, and then every destination and every
constraint carries the key it stands under. A broker of accepted settings is built exactly when
there is what it works with; what is missing otherwise is an error of the configuration. A
broker that was built has one destination for each configured one, and no other. -/
theorem accept_build_exact (raw : Settings) :
    ((∃ s, raw.accept = .ok s) ↔ raw.Sound) ∧
      ∀ s, raw.accept = .ok s →
        (∀ id : DestinationId, s.destinations[id]? =
          raw.destinations[id]?.map fun d => { d with id }) ∧
        (∀ name : String, s.constraints[name]? =
          raw.constraints[name]?.map fun c => { c with id := name }) ∧
        ∀ e : Equipment,
          ((∃ b, build s e = .ok b) ↔ e.Suits s) ∧
          (∀ err, build s e = .error err → err.category = .configuration) ∧
          ∀ b, build s e = .ok b → b.Hosts s := by
  refine ⟨⟨?_, fun hsound => ⟨raw.named, Settings.accept_eq_ok_iff.mpr ⟨hsound, rfl⟩⟩⟩, ?_⟩
  · rintro ⟨s, haccept⟩
    exact (Settings.accept_eq_ok_iff.mp haccept).1
  · intro s haccept
    obtain ⟨hsound, hnamed⟩ := Settings.accept_eq_ok_iff.mp haccept
    refine ⟨fun id => ?_, fun name => ?_, fun e => ⟨?_, fun _ => category_of_build,
      fun _ => hosts_of_build haccept⟩⟩
    · rw [hnamed, Settings.getElem?_destinations_named]
    · rw [hnamed, Settings.getElem?_constraints_named]
    · exact exists_build_eq_ok_iff (Settings.sound_of_accept haccept)
        (fun _ _ hd => Settings.id_eq_of_accept haccept hd)

/-- A destination whose messages go through a bridge to another system. -/
def orders : DestinationSettings :=
  { DestinationSettings.standard "orders" with adapter := .jms, adapterRef := some "mq" }

/-- Settings with this one destination. -/
def bridged : Settings := Settings.standard.addDestination orders

theorem getElem?_bridged_eq_some_iff {d : DestinationSettings} :
    bridged.destinations[id]? = some d ↔ id = "orders" ∧ d = orders := by
  rw [bridged, Settings.addDestination, Maps.getElem?_insert_ite]
  simp [Settings.standard, orders, DestinationSettings.standard, eq_comm]

theorem accept_build_exact_bridged : ∃ s, bridged.accept = .ok s ∧
    (∃ b, build s ⟨true, false, ["mq"], []⟩ = .ok b ∧ b.Hosts s) ∧
      ∃ err, build s ⟨true, false, [], ["mq"]⟩ = .error err ∧ err.category = .configuration := by
  have hsound : bridged.Sound := by
    refine ⟨by decide, by decide, fun id d hd => ?_⟩
    obtain ⟨rfl, rfl⟩ := getElem?_bridged_eq_some_iff.mp hd
    refine ⟨by decide, by decide, ?_, fun _ => ⟨"mq", rfl, by decide⟩, ?_⟩
    · exact ThrottleSettings.validate_eq_ok_iff.mp rfl
    · rintro name (h | h) <;> cases h
  obtain ⟨s, hs⟩ := (accept_build_exact bridged).1.mpr hsound
  obtain ⟨hdestinations, -, hbuild⟩ := (accept_build_exact bridged).2 s hs
  have hget {id : DestinationId} {d : DestinationSettings} (hd : s.destinations[id]? = some d) :
      d.adapter = .jms ∧ d.adapterRef = some "mq" ∧ d.routingMode = .none := by
    rw [hdestinations] at hd
    obtain ⟨d', hd', rfl⟩ := Option.map_eq_some_iff.mp hd
    obtain ⟨-, rfl⟩ := getElem?_bridged_eq_some_iff.mp hd'
    exact ⟨rfl, rfl, rfl⟩
  refine ⟨s, hs, ?_, ?_⟩
  · have hsuits : Equipment.Suits ⟨true, false, ["mq"], []⟩ s := by
      refine ⟨rfl, fun id d hd => ?_⟩
      obtain ⟨hkind, href, hmode⟩ := hget hd
      exact ⟨fun h => absurd hmode h, fun _ => ⟨"mq", List.mem_singleton.mpr rfl, href⟩,
        fun h => by rw [hkind] at h; cases h⟩
    obtain ⟨b, hb⟩ := (hbuild _).1.mpr hsuits
    exact ⟨b, hb, (hbuild _).2.2 b hb⟩
  · have hlacks : ¬Equipment.Suits ⟨true, false, [], ["mq"]⟩ s := by
      intro hsuits
      have horders : s.destinations["orders"]? = some orders := by
        rw [hdestinations, getElem?_bridged_eq_some_iff.mpr ⟨rfl, rfl⟩]
        rfl
      obtain ⟨_, hmem, -⟩ := (hsuits.serves "orders" _ horders).bridge rfl
      cases hmem
    cases hb : build s ⟨true, false, [], ["mq"]⟩ with
    | ok b => exact absurd ((hbuild _).1.mp ⟨b, hb⟩) hlacks
    | error err => exact ⟨err, rfl, (hbuild _).2.1 err hb⟩

end Broker

end MessageBroker
