import BusExporter.Lib.F64
import BusExporter.Lib.Machine
import BusExporter.Model.InternalMetrics
import BusExporter.Model.Metrics
import BusExporter.Model.Reader

/-! The collector task (`collector.rs`): `run_collector` as a machine that stops at every await and
at every entry of the result loop. The clock, the outcome of each wait and the order of each hash map
walk are inputs, and so is what other tasks do to the shared maps. -/

namespace BusExporter.Collector
open Lib Config

def maxBackoff : Duration := Duration.fromSecs 60

def initialBackoff : Duration := Duration.fromSecs 1

def mapMetricType : Config.MetricType → Metrics.MetricType
  | .gauge => .gauge
  | .counter => .counter

structure Task (σ : Type) where
  collector : CollectorConfig
  reader : MetricReader σ
  writer : Option (MetricWriter σ)
  globalLabels : BTreeMap String

inductive ReturnPath
  | connectWait
  | initWritesWait
  | shutdownCheck
  | skipWait
  | reconnectWait
  | endWait
  | endCheck
deriving DecidableEq

/-- Where the task stands: before a connect, a write, a read or a wait, at the head of the poll
loop, or in the result loop with the entries still to come. -/
inductive Pc
  | connect
  | connectWait
  | initWrites
  | initWritesWait
  | cycleStart
  | shutdownCheck
  | prePoll
  | skip
  | skipWait
  | prePollAbort
  | read
  | results (read : ReadResults) (rest : List ReadEntry)
  | abort (read : ReadResults)
  | publish (read : ReadResults)
  | endWait
  | reconnect
  | reconnectWait
  | reconnectConnect
  | reconnectInitWrites
  | returned (path : ReturnPath)
  | panicked (cause : Panic)

structure State (σ : Type) where
  pc : Pc := .connect
  world : σ
  backoff : Duration := initialBackoff
  cancelled : Bool := false
  shutdown : Bool := false
  senderDropped : Bool := false
  prePollFailures : Nat := 0
  prevCache : HashMap String MetricValue := ∅
  errorCounts : HashMap String Nat := ∅
  localCache : HashMap String MetricValue := ∅
  pollHadError : Bool := false
  store : MetricStore := ∅
  internal : Option InternalMetrics

inductive Wake
  | slept
  | shutdown
deriving DecidableEq

structure Orders where
  results : RandomState := []
  prevCache : RandomState := []
  errorCounts : RandomState := []
  values : RandomState := []
  stored : RandomState := []

structure Env where
  wake : Wake := .slept
  elapsed : Duration := 0
  now : SystemTime := 0
  orders : Orders := {}

inductive Input
  | task (env : Env)
  | sendShutdown
  | dropSender
  | publishOther (name : String) (metrics : List MetricValue)
  | statsOther (name : String) (stats : CollectorStats)

inductive Event (σ : Type)
  | connect (ok : Bool)
  | disconnect
  | initWrites (before : σ) (steps : List WriteStep) (ok : Bool) (after : σ)
  | prePoll (before : σ) (steps : List WriteStep) (ok : Bool) (after : σ)
  | backoffWait (backoff : Duration)
  | cycle
  | read (before : σ) (results : ReadResults) (after : σ)
  | outcome (success : Bool)
  | aborted (results : ReadResults)
  | completed (results : ReadResults)
  | publish (snapshot : List MetricValue)
  | returned (path : ReturnPath)

def measured (cfg : MetricConfig) (scaled : Float) (now : SystemTime) : MetricValue :=
  { name := cfg.name
    value := scaled
    metricType := mapMetricType cfg.metricType
    description := cfg.description
    unit := cfg.unit
    updatedAt := now }

def carryForward (now : SystemTime) (order : RandomState) (prevCache localCache : HashMap String MetricValue) :
    HashMap String MetricValue :=
  (prevCache.iter order).foldl (fun cache e => cache.orInsert e.1 { e.2 with updatedAt := now }) localCache

def errorCounter (now : SystemTime) (metricName : String) (count : Nat) : MetricValue :=
  { name := metricName ++ "_errors"
    value := F64.ofU64 count
    metricType := .counter
    description := s!"Error count for metric {metricName}"
    unit := ""
    updatedAt := now }

/-- The count replaces the value of whatever series has the derived name. -/
def putErrorCount (now : SystemTime) (cache : HashMap String MetricValue) (e : Σ _ : String, Nat) :
    HashMap String MetricValue :=
  let key := e.1 ++ "_errors"
  (cache.orInsert key (errorCounter now e.1 e.2)).modify key fun m =>
    { m with value := F64.ofU64 e.2, updatedAt := now }

def addErrorCounts (now : SystemTime) (order : RandomState) (errorCounts : HashMap String Nat)
    (localCache : HashMap String MetricValue) : HashMap String MetricValue :=
  (errorCounts.iter order).foldl (putErrorCount now) localCache

def mergeCaches (env : Env) (prevCache localCache : HashMap String MetricValue)
    (errorCounts : HashMap String Nat) : HashMap String MetricValue :=
  addErrorCounts env.now env.orders.errorCounts errorCounts
    (carryForward env.now env.orders.prevCache prevCache localCache)

section Steps
variable {σ : Type} (t : Task σ)

def needsWrites (steps : List WriteStep) : Bool := t.writer.isSome && !steps.isEmpty

def executeWrites (steps : List WriteStep) (world : σ) : Result Unit × σ :=
  match t.writer with
  | some writer => writer.executeWrites steps world
  | none => (.ok (), world)

namespace State
variable (s : State σ)

/-- The shutdown channel has news: a value was sent, or its sender is gone. -/
def changed : Bool := s.shutdown || s.senderDropped

def count (f : CollectorStats → CollectorStats) : State σ :=
  { s with internal := s.internal.map (·.updateCollector t.collector.name f) }

def doubled : State σ := { s with backoff := min (s.backoff * 2) maxBackoff }

def stop (path : ReturnPath) : State σ × List (Event σ) :=
  ({ s with cancelled := true, world := (t.reader.disconnect s.world).2, pc := .returned path },
    [.disconnect, .returned path])

def countOutcome (env : Env) (success : Bool) : State σ :=
  s.count t fun stats =>
    { stats with
      lastPollDurationSecs := F64.asSecsF64 env.elapsed
      pollsSuccess := stats.pollsSuccess + success.toNat
      pollsError := stats.pollsError + (!success).toNat }

def afterConnect (writes : Pc) : State σ :=
  { s with
    backoff := initialBackoff
    pc := if needsWrites t t.collector.initWrites then writes else .cycleStart }

end State

def publishStep (env : Env) (s : State σ) : State σ × List (Event σ) :=
  let localCache := mergeCaches env s.prevCache s.localCache s.errorCounts
  let metrics := (localCache.iter env.orders.values).map (·.2)
  let collectorLabels := (t.collector.labels.entries).foldl (fun labels e => labels.insert e.1 e.2) ∅
  let store := s.store.publish env.orders.stored t.collector.name metrics t.globalLabels collectorLabels
  ({ s with prevCache := localCache, store, pc := .endWait },
    [.publish (store.metricsFor t.collector.name)])

def resultStep (env : Env) (s : State σ) (read : ReadResults)
    (entry : ReadEntry) (rest : List ReadEntry) :
    State σ :=
  let s := { s with pc := .results read rest }
  match t.collector.metrics.find? (·.name = entry.1) with
  | none => s
  | some cfg =>
      match entry.2 with
      | .ok (_, scaled) => { s with localCache := s.localCache.insert entry.1 (measured cfg scaled env.now) }
      | .error _ =>
          let s := s.count t fun stats => { stats with readErrors := stats.readErrors + 1 }
          if t.reader.isConnected s.world then
            { s with
              pollHadError := true
              errorCounts := (s.errorCounts.orInsert entry.1 0).modify entry.1 (· + 1) }
          else { s with pollHadError := true, pc := .abort read }

def taskStep (env : Env) (s : State σ) : Option (State σ × List (Event σ)) :=
  match s.pc with
  -- the initial connect
  | .connect =>
      match t.reader.connect s.world with
      | (.ok (), world) => some (({ s with world }).afterConnect t .initWrites, [.connect true])
      | (.error _, world) => some ({ s with world, pc := .connectWait }, [.connect false])
  | .connectWait =>
      match env.wake with
      | .slept => some ({ s.doubled with pc := .connect }, [.backoffWait s.backoff])
      | .shutdown =>
          if s.changed then
            some ((s.stop t .connectWait).map id (.backoffWait s.backoff :: ·))
          else none
  | .initWrites =>
      let steps := t.collector.initWrites
      match executeWrites t steps s.world with
      | (.ok (), world) =>
          some ({ s with world, pc := .cycleStart }, [.initWrites s.world steps true world])
      | (.error _, world) =>
          some ({ s with world := (t.reader.disconnect world).2, pc := .initWritesWait },
            [.initWrites s.world steps false world, .disconnect])
  | .initWritesWait =>
      match env.wake with
      | .slept => some ({ s.doubled with pc := .connect }, [.backoffWait s.backoff])
      | .shutdown =>
          if s.changed then
            some ({ s with cancelled := true, pc := .returned .initWritesWait },
              [.backoffWait s.backoff, .returned .initWritesWait])
          else none
  -- the poll loop
  | .cycleStart =>
      let s := s.count t fun stats => { stats with pollsTotal := stats.pollsTotal + 1 }
      some ({ s with localCache := ∅, pollHadError := false, pc := .shutdownCheck }, [.cycle])
  | .shutdownCheck =>
      if s.shutdown then some (s.stop t .shutdownCheck)
      else some ({ s with pc := if needsWrites t t.collector.prePoll then .prePoll else .read }, [])
  | .prePoll =>
      let steps := t.collector.prePoll
      match executeWrites t steps s.world with
      | (.ok (), world) =>
          some ({ s with world, prePollFailures := 0, pc := .read }, [.prePoll s.world steps true world])
      | (.error _, world) =>
          let failures := s.prePollFailures + 1
          some ({ s with world, prePollFailures := failures
                         pc := if 3 ≤ failures then .prePollAbort else .skip },
            [.prePoll s.world steps false world])
  | .skip => some ({ s.countOutcome t env false with pc := .skipWait }, [.outcome false])
  | .skipWait =>
      if env.elapsed < t.collector.pollingInterval ∧ env.wake = .shutdown then
        if s.changed then some (s.stop t .skipWait) else none
      else some ({ s with pc := .cycleStart }, [])
  | .prePollAbort => some ({ s.countOutcome t env false with pc := .reconnect }, [.outcome false])
  | .read =>
      match t.reader.read (fun _ => s.cancelled) s.world with
      | .error cause => some ({ s with pc := .panicked cause }, [])
      | .ok (read, world) =>
          let counted := s.count t fun stats => { stats with readRequests := stats.readRequests + read.ioCount }
          some ({ counted with world, pc := .results read (read.metrics.iter env.orders.results) },
            [.read s.world read world])
  | .results read (entry :: rest) => some (resultStep t env s read entry rest, [])
  | .results read [] =>
      let success := !s.pollHadError
      some ({ s.countOutcome t env success with backoff := initialBackoff, pc := .publish read },
        [.outcome success, .completed read])
  | .abort read =>
      some ({ s.countOutcome t env false with pc := .reconnect }, [.outcome false, .aborted read])
  | .publish _ => some (publishStep t env s)
  | .endWait =>
      if env.elapsed < t.collector.pollingInterval then
        match env.wake with
        | .slept => some ({ s with pc := .cycleStart }, [])
        | .shutdown => if s.changed then some (s.stop t .endWait) else none
      else if s.shutdown then some (s.stop t .endCheck)
      else some ({ s with pc := .cycleStart }, [])
  -- reconnect_with_init_writes
  | .reconnect =>
      some ({ s with world := (t.reader.disconnect s.world).2, pc := .reconnectWait }, [.disconnect])
  | .reconnectWait =>
      match env.wake with
      | .slept => some ({ s.doubled with pc := .reconnectConnect }, [.backoffWait s.backoff])
      | .shutdown =>
          if s.changed then
            some ((s.stop t .reconnectWait).map id (.backoffWait s.backoff :: ·))
          else none
  | .reconnectConnect =>
      match t.reader.connect s.world with
      | (.ok (), world) =>
          some (({ s with world, prePollFailures := 0 }).afterConnect t .reconnectInitWrites, [.connect true])
      | (.error _, world) => some ({ s with world, pc := .reconnect }, [.connect false])
  | .reconnectInitWrites =>
      let steps := t.collector.initWrites
      match executeWrites t steps s.world with
      | (.ok (), world) =>
          some ({ s with world, pc := .cycleStart }, [.initWrites s.world steps true world])
      | (.error _, world) =>
          some ({ s with world, pc := .reconnect }, [.initWrites s.world steps false world])
  | .returned _ => none
  | .panicked _ => none

def step (s : State σ) : Input → Option (State σ × List (Event σ))
  | .task env => taskStep t env s
  | .sendShutdown => some ({ s with shutdown := true }, [])
  | .dropSender => some ({ s with senderDropped := true }, [])
  | .publishOther name metrics =>
      if name = t.collector.name then none
      else some ({ s with store := s.store.insert name metrics }, [])
  | .statsOther name stats =>
      if name = t.collector.name then none
      else some ({ s with internal := s.internal.map (·.insert name stats) }, [])

def machine : Machine (State σ) Input (Event σ) := ⟨step t⟩

def start (world : σ) (internalMetrics : Bool) : State σ :=
  { world := t.reader.setMetrics t.collector.metrics world
    internal := if internalMetrics then some ∅ else none }

end Steps
end BusExporter.Collector
