/-
# The management report

A snapshot of a node for management: its gauges, and for each destination the totals, the
state of the throttle, and the nodes with subscriptions.
-/

import MessageBroker.Broker.State

namespace MessageBroker

/-- The totals of a destination as a table. -/
def Totals.toDocument (t : Totals) : Document :=
  .ofMembers
    [("subscriptions", t.subscriptions.toDocument),
     ("received", .ofNat t.received),
     ("from_peers", .ofNat t.fromPeers),
     ("from_adapter", .ofNat t.fromAdapter),
     ("delivered", .ofNat t.delivered),
     ("delivery_failures", .ofNat t.deliveryFailures),
     ("inbound_throttled", .ofNat t.inboundThrottled),
     ("outbound_throttled", .ofNat t.outboundThrottled),
     ("expired", .ofNat t.expired),
     ("forwarded", .ofNat t.forwarded),
     ("last_expired", t.lastExpired.toDocument)]

/-- The throttle of one direction as a table. -/
def Limiter.report (l : Limiter) (d : Direction) : Document :=
  .ofMembers
    [("enabled", .bool (l.settings.isEnabled d)), ("stats", (l.refusals.get d).toDocument)]

/-- A destination as a table. -/
def Destination.report (d : Destination) : Document :=
  .ofMembers
    [("started", .bool d.started),
     ("subscribers", .ofNat d.registry.clients.length),
     ("stats", d.totals.toDocument),
     ("throttle", .ofMembers
       [("inbound", d.limiter.report .inbound), ("outbound", d.limiter.report .outbound)]),
     ("remote_peers", .list (d.remote.peerIds.map .ofNat))]

/-- A node as a table. -/
def Broker.report (b : Broker) : Document :=
  .ofMembers
    [("node", .ofNat b.settings.node),
     ("sessions", b.sessionGauge.toDocument),
     ("subscriptions", b.subscriptionGauge.toDocument),
     ("destinations", .ofMembers (b.destinations.map fun d => (d.id, d.report)))]

end MessageBroker
