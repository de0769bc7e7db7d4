import ProxySync.Sync.Ports

/-!
# Metrics

The events of the service are shown as counters with labels, one sample for
each combination of labels that occurred.
-/

namespace ProxySync

/-- What a group of samples is about. -/
structure Metric where
  name : String
  help : String
  type : String
deriving DecidableEq, Repr

namespace Metric

def mutations : Metric where
  name := "conduit_mutations_total"
  help := "Mutating calls handled by the sync service, by entity kind, operation and outcome."
  type := "counter"

def reloads : Metric where
  name := "conduit_proxy_reloads_total"
  help := "Reload commands issued to the proxy, by result."
  type := "counter"

def syncs : Metric where
  name := "conduit_sync_duration_seconds"
  help := "Time spent rendering the haproxy config and reloading the proxy."
  type := "summary"

/-- All metrics by name. -/
def all : List Metric := [mutations, reloads, syncs]

def helpLine (m : Metric) : String := "# HELP " ++ m.name ++ " " ++ m.help

def typeLine (m : Metric) : String := "# TYPE " ++ m.name ++ " " ++ m.type

end Metric

def Event.metric : Event → Metric
  | .mutation .. => .mutations
  | .reload _ => .reloads
  | .sync => .syncs

def labels (pairs : List (String × String)) : String :=
  "\x7b" ++ ",".intercalate (pairs.map fun (k, v) => k ++ "=\"" ++ v ++ "\"") ++ "\x7d"

def outcomeName : Option FaultKind → String
  | none => "success"
  | some k => k.name

/-- The sample that counts the event. -/
def Event.sample : Event → String
  | .mutation k op fault =>
    Metric.mutations.name ++
      labels [("kind", k.noun), ("operation", op.name), ("outcome", outcomeName fault)]
  | .reload ok =>
    Metric.reloads.name ++ labels [("result", if ok then "success" else "failure")]
  | .sync => Metric.syncs.name ++ "_count"

/-- The events that occurred, with how often they did. -/
def samples (events : List Event) : List (String × Nat) :=
  events.eraseDups.map fun e => (e.sample, events.count e)

/-- The lines that describe the metrics which have samples, in order. -/
def aboutLines (events : List Event) : List String :=
  let used := Metric.all.filter fun m => events.any fun e => e.metric = m
  used.map Metric.helpLine ++ used.map Metric.typeLine

end ProxySync
