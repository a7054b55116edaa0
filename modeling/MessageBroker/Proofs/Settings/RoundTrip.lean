/-
# Settings of destinations read back from their texts

What is written about a destination should be enough to set it up again. Writer and
reader are two independent lists of fields, so the round trip goes field by field: each
kind of value reads back from the document that it is written as. One value does not. A
routing mode is written as one word, in the spelling of its name, and is read in the
spelling with dashes; only the modes whose name is a single word meet in the middle.
Settings that share subscriptions between nodes are therefore written as a text that is
refused, and with it the whole of the settings.
-/

import MessageBroker.Proofs.Document.Records
import MessageBroker.Proofs.Document.Written
import MessageBroker.Settings.Destination

namespace MessageBroker

open Document

variable {manner : Manner}

/-! ## Single values -/

/-- A span of a 64-bit number of milliseconds reads back. -/
theorem Span.ofDocument_toDocument {d : Span} (fits : d.ms < 0x10000000000000000) :
    ofDocument d.toDocument = .ok d := by
  have range : 0 ≤ (d.ms : Int) ∧ (d.ms : Int) < 0x10000000000000000 := by omega
  simp only [toDocument, ofDocument]
  rw [if_pos range, Int.toNat_natCast]

theorem Span.lt_of_word? {m n : Nat} (word : word? m = some n) : n < Text.word64 := by
  unfold word? at word
  split at word
  case isTrue below => cases word; exact below
  case isFalse => cases word

/-- The sum of the amounts of a text fits a 64-bit word if the sum before it does. -/
theorem Span.lt_of_sumAmounts? {fuel total n : Nat} {cs : List Char} (fits : total < Text.word64)
    (sum : sumAmounts? fuel total cs = some n) : n < Text.word64 := by
  induction fuel generalizing total cs with
  | zero => cases cs <;> simp_all [sumAmounts?]
  | succ fuel ih =>
    cases cs with
    | nil => simp_all [sumAmounts?]
    | cons c cs =>
      simp only [sumAmounts?, Option.bind_eq_bind, Option.bind_eq_some_iff] at sum
      obtain ⟨amount, -, length, -, part, -, total, word, later⟩ := sum
      exact ih (Span.lt_of_word? word) later

/-- A span read from a text is a 64-bit number of milliseconds. -/
theorem Span.lt_of_ofText? {d : Span} {s : String} (found : ofText? s = some d) :
    d.ms < Text.word64 := by
  have zero : 0 < Text.word64 := by decide
  unfold ofText? at found
  simp only at found
  split at found
  · cases found
  · split at found
    case h_1 n number =>
      cases found
      obtain ⟨m, -, word⟩ := Option.bind_eq_some_iff.1 number
      exact Span.lt_of_word? word
    case h_2 =>
      obtain ⟨n, sum, rfl⟩ := Option.map_eq_some_iff.1 found
      exact Span.lt_of_sumAmounts? zero sum

/-- A span that was read is a 64-bit number of milliseconds. -/
theorem Span.lt_of_ofDocument {d : Span} {v : Document} (given : ofDocument v = .ok d) :
    d.ms < 0x10000000000000000 := by
  unfold ofDocument at given
  split at given
  case h_1 i =>
    split at given
    case isTrue range => cases given; simp only; omega
    case isFalse => cases given
  case h_2 s =>
    split at given
    case h_1 d' found =>
      cases given
      exact Span.lt_of_ofText? found
    case h_2 => cases given
  case h_3 => cases given

/-- The kind of an adapter reads back from its name. -/
theorem AdapterKind.ofDocument_toText (a : AdapterKind) :
    ofDocument manner (.text a.toText) = .ok a := by
  cases a <;> cases manner <;> rfl

/-- The name of a policy is one of its spellings. -/
theorem Policy.ofText?_name (p : Policy) : ofText? p.name = some p := by
  cases p <;> decide +kernel

/-- A policy reads back from its name. -/
theorem Policy.ofDocument_name (p : Policy) : ofDocument manner (.text p.name) = .ok p := by
  have word : Read.text manner (.text p.name) = .ok p.name := by cases manner <;> rfl
  simp only [ofDocument, word, bind, Except.bind, Policy.ofText?_name]

/-- The name of a routing mode is one of its spellings as long as it is a single word. -/
theorem RoutingMode.ofText?_name (m : RoutingMode) :
    ofText? m.name = if m = .serverToServer then Option.none else some m := by
  cases m <;> decide +kernel

/-- A routing mode reads back unless it shares subscriptions: the text of that one is
refused by name. -/
theorem RoutingMode.ofDocument_toDocument (m : RoutingMode) :
    ofDocument manner m.toDocument =
      if m = .serverToServer then .error (.unknownRoutingMode "ServerToServer") else .ok m := by
  have word : Read.text manner m.toDocument = .ok m.name := by cases manner <;> rfl
  simp only [ofDocument, word, bind, Except.bind, RoutingMode.ofText?_name]
  cases m <;> rfl

/-! ## Records -/

/-- Frequencies are numbers of 32 bits. -/
def ThrottleSettings.Fits (s : ThrottleSettings) : Prop :=
  ∀ d, (s.get d).client < 0x100000000 ∧ (s.get d).destination < 0x100000000

/-- Numbers stay within the words that settings are made of. -/
structure DestinationSettings.Fits (s : DestinationSettings) : Prop where
  timeout : s.timeoutMinutes < 0x10000000000000000
  ttl : s.messageTtl.ms < 0x10000000000000000
  throttle : s.throttle.Fits

namespace ThrottleSettings

variable {s : ThrottleSettings}

/-- The fields of throttle settings in the order of their names. -/
theorem toDocument_eq (s : ThrottleSettings) : s.toDocument = .table
    [("inbound_policy", .text s.inbound.policy.name),
     ("incoming_client_frequency", .ofNat s.inbound.client),
     ("incoming_destination_frequency", .ofNat s.inbound.destination),
     ("outbound_policy", .text s.outbound.policy.name),
     ("outgoing_client_frequency", .ofNat s.outbound.client),
     ("outgoing_destination_frequency", .ofNat s.outbound.destination)] :=
  rfl

/-- Throttle settings read back, whether or not they would pass their checks. -/
theorem ofDocument_toDocument (fits : s.Fits) : ofDocument manner s.toDocument = .ok s := by
  obtain ⟨inboundClient, inboundDestination⟩ := fits .inbound
  obtain ⟨outboundClient, outboundDestination⟩ := fits .outbound
  simp only [PerDirection.get] at *
  have six : (fields manner).length = 6 := rfl
  have nodup : ((fields manner).map (·.name)).Nodup := by
    simp [fields, fields.policy, fields.client, fields.destination]
  have read : ofDocument manner _ = _ := Read.record_of_parts nodup unlimited
    [((fields manner)[0], .text s.inbound.policy.name),
     ((fields manner)[2], .ofNat s.inbound.client),
     ((fields manner)[3], .ofNat s.inbound.destination),
     ((fields manner)[1], .text s.outbound.policy.name),
     ((fields manner)[4], .ofNat s.outbound.client),
     ((fields manner)[5], .ofNat s.outbound.destination)] (by simp)
  rw [toDocument_eq]
  refine read.trans ?_
  simp only [fields, fields.policy, fields.client, fields.destination, List.getElem_cons_zero,
    List.getElem_cons_succ]
  rw [Read.foldlM_parts_cons (Policy.ofDocument_name s.inbound.policy),
    Read.foldlM_parts_cons (Read.word32_ofNat inboundClient),
    Read.foldlM_parts_cons (Read.word32_ofNat inboundDestination),
    Read.foldlM_parts_cons (Policy.ofDocument_name s.outbound.policy),
    Read.foldlM_parts_cons (Read.word32_ofNat outboundClient),
    Read.foldlM_parts_cons (Read.word32_ofNat outboundDestination)]
  rfl

theorem fits_unlimited : unlimited.Fits := by
  intro d
  cases d <;> decide

/-- Limits that fit take the place of others that do. -/
theorem Fits.set (fits : s.Fits) (d : Direction) {l : Limits}
    (within : l.client < 0x100000000 ∧ l.destination < 0x100000000) : Fits (s.set d l) := by
  intro e
  by_cases same : e = d
  · rw [same, PerDirection.get_set_self]
    exact within
  · rw [PerDirection.get_set_of_ne s same]
    exact fits e

/-- Throttle settings that were read fit their words. -/
theorem fits_of_ofDocument {d : Document} (given : ofDocument manner d = .ok s) : s.Fits := by
  apply Read.record_induction _ fits_unlimited given
  intro f mem v s t fits set
  simp only [fields, List.mem_cons, List.not_mem_nil, or_false] at mem
  rcases mem with rfl | rfl | rfl | rfl | rfl | rfl
  all_goals
    obtain ⟨n, read, rfl⟩ := Read.exists_of_set set
    apply fits.set
  case inl | inr.inl => exact fits _
  case inr.inr.inl | inr.inr.inr.inr.inl => exact ⟨Read.lt_of_unsigned read, (fits _).2⟩
  case inr.inr.inr.inl | inr.inr.inr.inr.inr => exact ⟨(fits _).1, Read.lt_of_unsigned read⟩

/-- Throttle settings have an exact text. -/
theorem isExact_toDocument (fits : s.Fits) : IsExact s.toDocument := by
  obtain ⟨inboundClient, inboundDestination⟩ := fits .inbound
  obtain ⟨outboundClient, outboundDestination⟩ := fits .outbound
  simp only [PerDirection.get] at *
  rw [toDocument_eq]
  apply And.intro
  · apply (List.pairwise_map (R := (· < ·)) (f := Prod.fst)).mp
    simp only [List.map_cons, List.map_nil]
    decide
  · simp only [MembersExact, IsExact, Document.ofNat, and_true, true_and]
    omega

end ThrottleSettings

namespace DestinationSettings

variable {s : DestinationSettings}

/-- The fields of the settings of a destination in the order of their names. -/
theorem toDocument_eq (s : DestinationSettings) : s.toDocument = .table
    [("adapter", .text s.adapter.toText),
     ("adapter_ref", .ofText? s.adapterRef),
     ("allow_subtopics", .bool s.allowSubtopics),
     ("disallow_wildcard_subtopics", .bool s.disallowWildcards),
     ("message_ttl", s.messageTtl.toDocument),
     ("routing_mode", s.routingMode.toDocument),
     ("send_security_constraint", .ofText? s.sendConstraint),
     ("subscribe_security_constraint", .ofText? s.subscribeConstraint),
     ("subscription_timeout_minutes", .ofNat s.timeoutMinutes),
     ("subtopic_separator", .text s.separator.toString),
     ("throttle", s.throttle.toDocument)] :=
  rfl

/-- The settings of a destination have an exact text. -/
theorem isExact_toDocument (fits : s.Fits) : IsExact s.toDocument := by
  have texts : ∀ t : Option String, IsExact (.ofText? t) := by
    rintro (_ | t) <;> trivial
  have timeout : IsExact (.ofNat s.timeoutMinutes) := by
    have := fits.timeout
    simp only [IsExact, Document.ofNat]
    omega
  have ttl : IsExact s.messageTtl.toDocument := by
    have := fits.ttl
    simp only [IsExact, Span.toDocument]
    omega
  have throttle := ThrottleSettings.isExact_toDocument fits.throttle
  rw [toDocument_eq]
  apply And.intro
  · apply (List.pairwise_map (R := (· < ·)) (f := Prod.fst)).mp
    simp only [List.map_cons, List.map_nil]
    decide
  · simp only [MembersExact, texts, timeout, ttl, throttle]
    trivial

/-- The settings of a destination read back from their document, except that the mode that
shares subscriptions is refused. -/
theorem ofDocument_toDocument (fits : s.Fits) :
    ofDocument manner s.id s.toDocument =
      if s.routingMode = .serverToServer then .error (.unknownRoutingMode "ServerToServer")
      else .ok s := by
  have bool : ∀ b, Read.bool manner (.bool b) = .ok b := by
    intro b
    cases manner <;> rfl
  have eleven : (fields manner).length = 11 := rfl
  have nodup : ((fields manner).map (·.name)).Nodup := by simp [fields]
  have read : ofDocument manner s.id _ = _ := Read.record_of_parts nodup (standard s.id)
    [((fields manner)[0], .text s.adapter.toText),
     ((fields manner)[1], .ofText? s.adapterRef),
     ((fields manner)[2], .bool s.allowSubtopics),
     ((fields manner)[3], .bool s.disallowWildcards),
     ((fields manner)[6], s.messageTtl.toDocument),
     ((fields manner)[7], s.routingMode.toDocument),
     ((fields manner)[8], .ofText? s.sendConstraint),
     ((fields manner)[9], .ofText? s.subscribeConstraint),
     ((fields manner)[5], .ofNat s.timeoutMinutes),
     ((fields manner)[4], .text s.separator.toString),
     ((fields manner)[10], s.throttle.toDocument)] (by simp)
  rw [toDocument_eq]
  refine read.trans ?_
  simp only [fields, List.getElem_cons_zero, List.getElem_cons_succ]
  rw [Read.foldlM_parts_cons (AdapterKind.ofDocument_toText s.adapter),
    Read.foldlM_parts_cons (Read.optional_text_ofText? s.adapterRef),
    Read.foldlM_parts_cons (bool s.allowSubtopics),
    Read.foldlM_parts_cons (bool s.disallowWildcards),
    Read.foldlM_parts_cons (Span.ofDocument_toDocument fits.ttl)]
  have mode : RoutingMode.ofDocument manner s.routingMode.toDocument = _ :=
    RoutingMode.ofDocument_toDocument s.routingMode
  by_cases shared : s.routingMode = .serverToServer
  case pos =>
    rw [if_pos shared] at mode ⊢
    exact Read.foldlM_parts_refused mode _ _ _ _
  case neg =>
    rw [if_neg shared] at mode ⊢
    rw [Read.foldlM_parts_cons mode,
      Read.foldlM_parts_cons (Read.optional_text_ofText? s.sendConstraint),
      Read.foldlM_parts_cons (Read.optional_text_ofText? s.subscribeConstraint),
      Read.foldlM_parts_cons (Read.word64_ofNat fits.timeout),
      Read.foldlM_parts_cons (Read.character_toString s.separator),
      Read.foldlM_parts_cons (ThrottleSettings.ofDocument_toDocument fits.throttle)]
    rfl

theorem fits_standard (id : DestinationId) : (standard id).Fits where
  timeout := Nat.two_pow_pos 64
  ttl := Nat.two_pow_pos 64
  throttle := ThrottleSettings.fits_unlimited

/-- Settings that were read fit their words. -/
theorem fits_of_ofDocument {id : DestinationId} {d : Document}
    (given : ofDocument manner id d = .ok s) : s.Fits := by
  apply Read.record_induction _ (fits_standard id) given
  intro f mem d s t fits set
  simp only [fields, List.mem_cons, List.not_mem_nil, or_false] at mem
  rcases mem with rfl | rfl | rfl | rfl | rfl | rfl | rfl | rfl | rfl | rfl | rfl
  all_goals
    obtain ⟨v, read, rfl⟩ := Read.exists_of_set set
    clear set
  case inr.inr.inr.inr.inr.inl => exact { fits with timeout := Read.lt_of_unsigned read }
  case inr.inr.inr.inr.inr.inr.inl => exact { fits with ttl := Span.lt_of_ofDocument read }
  case inr.inr.inr.inr.inr.inr.inr.inr.inr.inr =>
    exact { fits with throttle := ThrottleSettings.fits_of_ofDocument read }
  all_goals exact { fits with }

/-- The settings of a destination as a text. -/
def toJson (s : DestinationSettings) : String := Json.write s.toDocument

/-- Reads the settings of a destination from a text. -/
def ofJson (id : DestinationId) (text : String) : Read.Result DestinationSettings :=
  match Json.read? text with
  | some d => ofDocument .strict id d
  | none => .error .shape

/-- The text of settings holds all of their document. -/
theorem ofJson_toJson_eq (fits : s.Fits) :
    ofJson s.id s.toJson = ofDocument .strict s.id s.toDocument := by
  rw [ofJson, toJson, Json.read?_write (isExact_toDocument fits)]

/-- Reading the text of settings gives the same settings in every field, for every routing
mode but one: the spelling in which the mode of shared subscriptions is written is refused. -/
theorem ofJson_toJson (fits : s.Fits) :
    ofJson s.id s.toJson =
      if s.routingMode = .serverToServer then .error (.unknownRoutingMode "ServerToServer")
      else .ok s := by
  rw [ofJson_toJson_eq fits]
  exact ofDocument_toDocument fits

/-- A destination with a value of its own in every field. -/
def quotes : DestinationSettings where
  id := "quotes"
  adapter := .jms
  adapterRef := some "ticker \"main\""
  allowSubtopics := true
  disallowWildcards := true
  separator := '\n'
  timeoutMinutes := 0xFFFFFFFFFFFFFFFF
  messageTtl := ⟨1500⟩
  routingMode := .broadcast
  sendConstraint := some "brokers"
  subscribeConstraint := none
  throttle := ⟨⟨.error, 10, 100⟩, ⟨.ignore, 0, 0xFFFFFFFF⟩⟩

theorem fits_quotes : quotes.Fits where
  timeout := by decide
  ttl := by decide
  throttle := by
    intro d
    cases d <;> decide

theorem ofJson_toJson_quotes : quotes.Fits ∧ ofJson quotes.id quotes.toJson = .ok quotes :=
  ⟨fits_quotes, (ofJson_toJson fits_quotes).trans (if_neg (by decide))⟩

/-- Not every text of settings reads back. -/
theorem not_forall_ofJson_toJson :
    ¬∀ s : DestinationSettings, s.Fits → ofJson s.id s.toJson = .ok s := by
  intro lossless
  let shared : DestinationSettings := { quotes with routingMode := .serverToServer }
  have fits : shared.Fits := { fits_quotes with }
  have refused := (ofJson_toJson_eq fits).trans (ofDocument_toDocument fits)
  rw [lossless shared fits] at refused
  exact absurd refused (by simp [shared])

end DestinationSettings

end MessageBroker
