import BusExporter.Model.Collector
import BusExporter.Model.Mqtt
import BusExporter.Model.Otlp
import BusExporter.Model.Prometheus
import BusExporter.Model.StoreAccess

/-! All of `run_command` from the moment everything is spawned (`commands/run.rs`): the main task with its
shutdown sequence, the collectors, the Prometheus server with a task for each scrape
(`exporter/prometheus/mod.rs`), the OTLP exporter and the MQTT exporter. They share the metric store, which
every exporter walks entry by entry, and the metrics of the exporter about itself. -/

namespace BusExporter.Daemon
open Lib Config

/-! ## The tasks -/

/-- The main task, by what it has done: cancelled the token of the exporters, sent the flag of the collectors,
waited for them, and then for each exporter in turn. -/
inductive Main
  | serving
  | cancelled
  | signalled
  | collectorsAwaited
  | prometheusJoined
  | otlpJoined
  | done
deriving DecidableEq

inductive Server
  | binding
  | listening
  | draining
  | stopped
deriving DecidableEq

inductive Handler
  | entered
  | counted
  | walked (store : MetricStore)

inductive Walker
  | scrape (id : Nat)
  | otlp
  | mqtt
deriving DecidableEq

/-- What a scrape answers with: the store as its walk found it, and the counters at the time of the answer. -/
structure Page where
  store : MetricStore
  internal : Internal.InternalMetrics
  stats : RandomState
  now : Internal.Instant

def Page.body (page : Page) : String :=
  Prometheus.renderMetrics [] page.store ++ ("\n" ++ page.internal.renderPrometheus page.stats page.now)

variable {n : Nat} {σ : Fin n → Type}

structure System (σ : Fin n → Type) where
  main : Main := .serving
  collectors : ∀ i, Collector.State (σ i)
  store : StoreAccess.Shared Walker := SharedMap.empty
  internal : Internal.InternalMetrics
  prometheus : Option Server := none
  accepted : Nat := 0
  handlers : HashMap Nat Handler := ∅
  otlp : Option Otlp.State := none
  mqtt : Option Mqtt.State := none

/-- The wait for the collectors ends where its timeout does, whether or not they have returned. -/
inductive Input (n : Nat)
  | main (timedOut : Bool)
  | collector (i : Fin n) (env : Collector.Env)
  | bind (ok : Bool)
  | accept
  | scrape (id : Nat) (stats : RandomState) (now : Internal.Instant)
  | drain
  | close
  | otlp (env : Otlp.Env)
  | mqtt (input : Mqtt.Input)
  | visit (walker : Walker) (collectorName : String)

inductive Event (σ : Fin n → Type)
  | collector (i : Fin n) (e : Collector.Event (σ i))
  | exportersCancelled
  | flagSent
  | collectorsAwaited (timedOut : Bool)
  | complete
  | accepted (id : Nat)
  | response (id : Nat) (page : Page)
  | serverStopped
  | walkStarted (walker : Walker)
  | walked (walker : Walker) (parts : List (Σ _ : String, List MetricValue))
  | otlp (e : Otlp.Event)
  | mqtt (e : Mqtt.Event)

/-! ## Steps -/

def returned : Collector.Pc → Bool
  | .returned _ | .panicked _ => true
  | _ => false

def otlpFinished (s : Otlp.State) : Bool :=
  match s.pc with
  | .stopped => true
  | _ => false

def mqttFinished (s : Mqtt.State) : Bool :=
  match s.pc with
  | .returned => true
  | _ => false

namespace System
variable (s : System σ)

def collectorsReturned : Bool := decide (∀ i, returned (s.collectors i).pc)

def joins (main : Main) (finished : Bool) (events : List (Event σ)) : Option (System σ × List (Event σ)) :=
  if finished then some ({ s with main }, events) else none

def mainStep (timedOut : Bool) : Option (System σ × List (Event σ)) :=
  match s.main with
  | .serving =>
      some ({ s with main := .cancelled, mqtt := s.mqtt.map fun mqtt => { mqtt with cancelled := true } },
        [.exportersCancelled])
  | .cancelled =>
      some ({ s with main := .signalled, collectors := fun i => { s.collectors i with shutdown := true } },
        [.flagSent])
  | .signalled =>
      -- the sender of the flag goes with the engine
      if timedOut || s.collectorsReturned then
        some ({ s with
                main := .collectorsAwaited
                collectors := fun i => { s.collectors i with senderDropped := true } },
          [.collectorsAwaited timedOut])
      else none
  | .collectorsAwaited => s.joins .prometheusJoined (s.prometheus.all (· = .stopped)) []
  | .prometheusJoined => s.joins .otlpJoined (s.otlp.all otlpFinished) []
  | .otlpJoined => s.joins .done (s.mqtt.all mqttFinished) [.complete]
  | .done => none

/-- A task that calls `all_metrics_flat` goes on with what it finds once its walk of the store has ended. -/
def walk (walker : Walker) (found : MetricStore → System σ → Option (System σ × List (Event σ))) :
    Option (System σ × List (Event σ)) :=
  match s.store.walks walker with
  | none =>
      some ({ s with store := s.store.setWalk walker (some (.start s.store.map)) }, [.walkStarted walker])
  | some w =>
      if w.due = [] then
        (found w.collected.toAList { s with store := s.store.setWalk walker none }).map fun (s, events) =>
          (s, .walked walker w.collected :: events)
      else none

def visit (walker : Walker) (collectorName : String) : Option (System σ × List (Event σ)) :=
  (StoreAccess.step s.store (.visit walker collectorName)).map fun (store, _) => ({ s with store }, [])

/-! ### The collectors -/

def view (i : Fin n) : Collector.State (σ i) :=
  { s.collectors i with store := s.store.map, internal := some s.internal.collectorStats }

def collectorStep (t : ∀ i, Collector.Task (σ i)) (i : Fin n) (env : Collector.Env) :
    Option (System σ × List (Event σ)) :=
  (Collector.taskStep (t i) env (s.view i)).map fun (next, events) =>
    ({ s with
        collectors := Function.update s.collectors i next
        store := { s.store with map := next.store }
        internal := { s.internal with collectorStats := next.internal.getD s.internal.collectorStats } },
      events.map (.collector i))

/-! ### The Prometheus server -/

def bind (ok : Bool) : Option (System σ × List (Event σ)) :=
  if s.prometheus = some .binding then
    if ok then some ({ s with prometheus := some .listening }, [])
    else some ({ s with prometheus := some .stopped }, [.serverStopped])
  else none

def accept : Option (System σ × List (Event σ)) :=
  if s.prometheus = some .listening then
    some ({ s with accepted := s.accepted + 1, handlers := s.handlers.insert s.accepted .entered },
      [.accepted s.accepted])
  else none

def drain : Option (System σ × List (Event σ)) :=
  if s.prometheus = some .listening ∧ s.main ≠ .serving then some ({ s with prometheus := some .draining }, [])
  else none

def close : Option (System σ × List (Event σ)) :=
  if s.prometheus = some .draining ∧ s.handlers.entries = [] then
    some ({ s with prometheus := some .stopped }, [.serverStopped])
  else none

def countScrape : Internal.InternalMetrics :=
  { s.internal with prometheusScrapesTotal := s.internal.prometheusScrapesTotal + 1 }

def scrapeStep (id : Nat) (stats : RandomState) (now : Internal.Instant) : Option (System σ × List (Event σ)) :=
  match s.handlers.lookup id with
  | none => none
  | some .entered =>
      some ({ s with internal := s.countScrape, handlers := s.handlers.insert id .counted }, [])
  | some .counted =>
      s.walk (.scrape id) fun store s => some ({ s with handlers := s.handlers.insert id (.walked store) }, [])
  | some (.walked store) =>
      some ({ s with handlers := s.handlers.erase id }, [.response id ⟨store, s.internal, stats, now⟩])

/-! ### The OTLP exporter -/

def otlpTask (config : OtlpExporterConfig) (env : Otlp.Env) (own : Otlp.State) :
    Option (System σ × List (Event σ)) :=
  (Otlp.taskStep config env { own with internalMetrics := some s.internal }).map fun (next, events) =>
    ({ s with otlp := some next, internal := next.internalMetrics.getD s.internal }, events.map .otlp)

def otlpStep (config : OtlpExporterConfig) (env : Otlp.Env) (own : Otlp.State) :
    Option (System σ × List (Event σ)) :=
  match own.pc, env.wake with
  | .snapshot _, _ => s.walk .otlp fun store s => s.otlpTask config { env with store, stored := [] } own
  | .waiting, .cancelled => if s.main = .serving then none else s.otlpTask config env own
  | _, _ => s.otlpTask config env own

/-! ### The MQTT exporter -/

def mqttTask (config : MqttExporterConfig) (input : Mqtt.Input) (own : Mqtt.State) :
    Option (System σ × List (Event σ)) :=
  (Mqtt.step config own input).map fun (next, events) => ({ s with mqtt := some next }, events.map .mqtt)

def mqttMain (config : MqttExporterConfig) (env : Mqtt.Env) (own : Mqtt.State) :
    Option (System σ × List (Event σ)) :=
  match own.pc, env.wake with
  | .serving _, .slept =>
      s.walk .mqtt fun store s => s.mqttTask config (.main { env with store, stored := [] }) own
  | _, _ => if (s.store.walks .mqtt).isSome then none else s.mqttTask config (.main env) own

def mqttStep (config : MqttExporterConfig) (own : Mqtt.State) : Mqtt.Input → Option (System σ × List (Event σ))
  | .main env => s.mqttMain config env own
  -- the token is cancelled by the main task alone
  | .cancel => none
  | input => s.mqttTask config input own

end System

def step (config : Config) (t : ∀ i, Collector.Task (σ i)) (s : System σ) :
    Input n → Option (System σ × List (Event σ))
  | .main timedOut => s.mainStep timedOut
  | .collector i env => s.collectorStep t i env
  | .bind ok => s.bind ok
  | .accept => s.accept
  | .scrape id stats now => s.scrapeStep id stats now
  | .drain => s.drain
  | .close => s.close
  | .otlp env =>
      match config.exporters.otlp, s.otlp with
      | some otlp, some own => s.otlpStep otlp env own
      | _, _ => none
  | .mqtt input =>
      match config.exporters.mqtt, s.mqtt with
      | some mqtt, some own => s.mqttStep mqtt own input
      | _, _ => none
  | .visit walker collectorName => s.visit walker collectorName

def machine (config : Config) (t : ∀ i, Collector.Task (σ i)) : Machine (System σ) (Input n) (Event σ) :=
  ⟨step config t⟩

/-! ## The start -/

def internalMetrics (config : Config) (startTime : Internal.Instant) : Internal.InternalMetrics :=
  { startTime, collectorsTotal := config.collectors.length }

def spawned (config : Config) (t : ∀ i, Collector.Task (σ i)) (worlds : ∀ i, σ i)
    (startTime : Internal.Instant) : System σ where
  collectors := fun i => Collector.start (t i) (worlds i) true
  internal := internalMetrics config startTime
  prometheus := (config.exporters.prometheus.filter (·.enabled)).map fun _ => .binding
  otlp := (config.exporters.otlp.filter (·.enabled)).map fun _ =>
    { internalMetrics := some (internalMetrics config startTime) }
  mqtt := (config.exporters.mqtt.filter (·.enabled)).map fun _ => {}

end BusExporter.Daemon
