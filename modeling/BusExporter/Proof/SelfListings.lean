import BusExporter.Lib.Exposition
import BusExporter.Lib.Lists
import BusExporter.Model.Prometheus
import BusExporter.Model.SelfMetrics
import BusExporter.Model.Validate
import Mathlib.Algebra.Order.BigOperators.Group.List

/-! The two listings of the exporter's metrics about itself agree, but for collector names that the text does
not escape. -/

namespace BusExporter.Internal
open Lib Exposition

def printedPlaces (name : String) : Option Nat :=
  if name = "bus_exporter_uptime_seconds" then some 1
  else if name = "bus_exporter_poll_duration_seconds" then some 6
  else none

def Reads (name : String) (text : Text) (value : Float) : Prop :=
  match printedPlaces name with
  | some places => Decimal.Near places text value
  | none => ∃ n : Nat, Decimal.readDecimal text = some (n : ℚ) ∧ value = F64.ofU64 n

structure Agrees (read : Option Text × Sample) (m : MetricValue) : Prop where
  kind : read.1 = some (Prometheus.typeStr m.metricType).toList
  name : read.2.name = m.name.toList
  labels : read.2.labels = m.labels.toList.map fun (k, v) => (k.toList, v.toList)
  value : Reads m.name read.2.value m.value

/-- A scraper reads the text back as samples that agree one by one with the values, in some order. -/
def Lists (text : String) (values : List MetricValue) : Prop :=
  ∃ lines ordered, parse text.toList = some lines ∧ ordered.Perm values ∧ List.Forall₂ Agrees (typed lines) ordered

structure Listed (σ : Type) where
  name : String
  help : String
  metricType : Metrics.MetricType
  text : σ → String
  value : σ → Float
  named : validName name.toList = true
  plain : escapeDoc help.toList = help.toList
  numeric : ∀ s, ∀ c ∈ (text s).toList, F64.numeric c = true
  reads : ∀ s, Reads name (text s).toList (value s)

theorem readDecimal_count (n : Nat) : Decimal.readDecimal (toString n).toList = some (n : ℚ) := by
  rw [Nat.toString_eq_repr, Nat.toList_repr]
  refine Decimal.readDecimal_unsigned (Decimal.readUnsigned_toDigits n) ?_
  intro minus
  exact F64.not_mem_toDigits rfl n (List.mem_of_mem_head? minus)

section Kinds
variable {σ : Type} (name help : String) (metricType : Metrics.MetricType)

def listedCount (count : σ → Nat) (named : validName name.toList = true := by decide)
    (plain : escapeDoc help.toList = help.toList := by decide)
    (whole : printedPlaces name = none := by decide) : Listed σ where
  name
  help
  metricType
  text s := toString (count s)
  value s := F64.ofU64 (count s)
  named
  plain
  numeric s c member := by
    rw [Nat.toString_eq_repr, Nat.toList_repr] at member
    exact F64.numeric_toDigits member
  reads s := by
    rw [Reads, whole]
    exact ⟨count s, readDecimal_count (count s), rfl⟩

def listedFloat (places : Nat) (value : σ → Float)
    (named : validName name.toList = true := by decide)
    (plain : escapeDoc help.toList = help.toList := by decide)
    (printed : printedPlaces name = some places := by decide) : Listed σ where
  name
  help
  metricType
  text s := InternalMetrics.fixed places (value s)
  value
  named
  plain
  numeric s c member := by
    rw [InternalMetrics.fixed, String.toList_ofList] at member
    exact Decimal.numeric_fixedFloat member
  reads s := by
    rw [Reads, printed, InternalMetrics.fixed, String.toList_ofList]
    exact Decimal.fixedFloat_near places (value s)

end Kinds

def firstTotals (now : Instant) : List (Listed InternalMetrics) :=
  [listedCount "bus_exporter_collectors_total" "Total number of configured collectors" .gauge
      (·.collectorsTotal),
    listedFloat "bus_exporter_uptime_seconds" "Seconds since exporter started" .gauge 1
      (·.uptimeSeconds now)]

def perCollector : List (Listed CollectorStats) :=
  [listedCount "bus_exporter_polls_total" "Total poll cycles per collector" .counter (·.pollsTotal),
    listedCount "bus_exporter_polls_success_total" "Successful poll cycles per collector" .counter
      (·.pollsSuccess),
    listedCount "bus_exporter_polls_error_total" "Poll cycles with errors per collector" .counter
      (·.pollsError),
    listedCount "bus_exporter_modbus_requests_total" "Total read requests per collector" .counter
      (·.readRequests),
    listedCount "bus_exporter_modbus_errors_total" "Failed read requests per collector" .counter
      (·.readErrors),
    listedFloat "bus_exporter_poll_duration_seconds" "Duration of the last poll cycle in seconds" .gauge 6
      (·.lastPollDurationSecs)]

def lastTotals : List (Listed InternalMetrics) :=
  [listedCount "bus_exporter_otlp_exports_total" "Total OTLP export attempts" .counter (·.otlpExportsTotal),
    listedCount "bus_exporter_otlp_errors_total" "Failed OTLP exports" .counter (·.otlpErrorsTotal),
    listedCount "bus_exporter_prometheus_scrapes_total" "Total Prometheus scrape requests" .counter
      (·.prometheusScrapesTotal)]

abbrev Item (σ : Type) := Option String × σ

def labelsOf : Option String → BTreeMap String
  | none => ∅
  | some c => (∅ : BTreeMap String).insert "collector" c

def rowHead (name : String) : Option String → Text
  | none => name.toList
  | some c => name.toList ++ ("\x7bcollector=\"".toList ++ (c.toList ++ "\"\x7d".toList))

namespace Listed
variable {σ : Type} (f : Listed σ)

def kind : Text := (Prometheus.typeStr f.metricType).toList

def sample (item : Item σ) : Sample where
  name := f.name.toList
  labels := item.1.toList.map fun c => ("collector".toList, c.toList)
  value := (f.text item.2).toList

def family (items : List (Item σ)) : Family where
  name := f.name.toList
  doc := f.help.toList
  kind := f.kind
  samples := items.map f.sample

def metricValue (clock : SystemTime) (item : Item σ) : MetricValue :=
  InternalMetrics.metricValue clock f.name f.help f.metricType (labelsOf item.1) (f.value item.2)

def row (item : Item σ) : Text × Nat :=
  (rowHead f.name item.1 ++ ' ' :: (f.text item.2).toList, (rowHead f.name item.1).length)

def rows (items : List (Item σ)) : List (Text × Nat) :=
  ((Line.help f.name.toList f.help.toList).print, 0) :: ((Line.type f.name.toList f.kind).print, 0) ::
    items.map f.row

theorem agrees (clock : SystemTime) (item : Item σ) :
    Agrees (some f.kind, f.sample item) (f.metricValue clock item) where
  kind := rfl
  name := rfl
  labels := by
    obtain ⟨c, s⟩ := item
    cases c <;> rfl
  value := f.reads item.2

end Listed

def textOf (rows : List (Text × Nat)) : Text := rows.flatMap fun row => row.1 ++ ['\n']

theorem toList_header {σ : Type} (f : Listed σ) :
    (InternalMetrics.header f.name f.help (Prometheus.typeStr f.metricType)).toList = textOf (f.rows []) := by
  delta InternalMetrics.header
  simp only [String.toList_append, textOf, Listed.rows, List.map_nil, List.flatMap_cons, List.flatMap_nil,
    Line.print, f.plain, Listed.kind, List.append_nil, List.append_assoc, List.cons_append]
  rfl

theorem rows_cons {σ : Type} (f : Listed σ) (items : List (Item σ)) :
    textOf (f.rows items) = textOf (f.rows []) ++ textOf (items.map f.row) := by
  simp [textOf, Listed.rows]

theorem textOf_append (rows rows' : List (Text × Nat)) : textOf (rows ++ rows') = textOf rows ++ textOf rows' :=
  List.flatMap_append

theorem toList_renderTotal (f : Listed InternalMetrics) (im : InternalMetrics) :
    (InternalMetrics.renderTotal f.name f.help (Prometheus.typeStr f.metricType) (f.text im)).toList =
      textOf (f.rows [(none, im)]) := by
  have line : (f.name ++ " " ++ f.text im ++ "\n").toList = textOf [f.row (none, im)] := by
    simp [textOf, Listed.row, rowHead]
  rw [InternalMetrics.renderTotal, String.toList_append, toList_header, rows_cons f [(none, im)], line]
  rfl

def entriesOf (im : InternalMetrics) (collectors : List String) : List (Item CollectorStats) :=
  collectors.filterMap fun c => (im.collectorStats.lookup c).map fun s => (some c, s)

theorem toList_collectorLine (f : Listed CollectorStats) (c : String) (s : CollectorStats) :
    (InternalMetrics.collectorLine f.name (f.text s) c).toList = textOf [f.row (some c, s)] := by
  simp [InternalMetrics.collectorLine, textOf, Listed.row, rowHead]

theorem toList_renderCollectors (f : Listed CollectorStats) (im : InternalMetrics) (collectors : List String) :
    (im.renderCollectors collectors f.name f.help (Prometheus.typeStr f.metricType) f.text).toList =
      textOf (f.rows (entriesOf im collectors)) := by
  rw [InternalMetrics.renderCollectors, String.toList_append, toList_header,
    rows_cons f (entriesOf im collectors), String.toList_join]
  congr 1
  induction collectors with
  | nil => rfl
  | cons c collectors ih =>
      rw [List.map_cons, List.flatMap_cons, ih]
      cases found : im.collectorStats.lookup c with
      | none =>
          have skipped : entriesOf im (c :: collectors) = entriesOf im collectors :=
            List.filterMap_cons_none (by rw [found]; rfl)
          rw [skipped]
          rfl
      | some s =>
          have more : entriesOf im (c :: collectors) = (some c, s) :: entriesOf im collectors :=
            List.filterMap_cons_some (by rw [found]; rfl)
          rw [more, toList_collectorLine, List.map_cons]
          exact (textOf_append [_] _).symm

structure Listing where
  {σ : Type}
  metric : Listed σ
  items : List (Item σ)

namespace Listing
variable (l : Listing)

def rows : List (Text × Nat) := l.metric.rows l.items

def family : Family := l.metric.family l.items

def values (clock : SystemTime) : List MetricValue := l.items.map (l.metric.metricValue clock)

def places : List (String × Option String) := l.items.map fun item => (l.metric.name, item.1)

end Listing

def listings (im : InternalMetrics) (collectors : List String) (now : Instant) : List Listing :=
  (firstTotals now).map (fun f => ⟨f, [(none, im)]⟩) ++
    (if collectors.isEmpty then [] else perCollector.map fun f => ⟨f, entriesOf im collectors⟩) ++
    lastTotals.map (fun f => ⟨f, [(none, im)]⟩)

theorem toList_renderPrometheus (im : InternalMetrics) (order : RandomState) (now : Instant) :
    (im.renderPrometheus order now).toList =
      textOf ((listings im (im.sortedCollectors order) now).flatMap Listing.rows) := by
  have totals (listed : List (Listed InternalMetrics)) : listed.flatMap (fun f =>
      (InternalMetrics.renderTotal f.name f.help (Prometheus.typeStr f.metricType) (f.text im)).toList) =
        textOf ((listed.map fun f => Listing.mk f [(none, im)]).flatMap Listing.rows) := by
    rw [List.flatMap_map, textOf, List.flatMap_assoc]
    exact List.flatMap_congr fun f _ => toList_renderTotal f im
  have collectors : perCollector.flatMap (fun f =>
      (im.renderCollectors (im.sortedCollectors order) f.name f.help (Prometheus.typeStr f.metricType)
        f.text).toList) =
        textOf ((perCollector.map fun f => Listing.mk f (entriesOf im (im.sortedCollectors order))).flatMap
          Listing.rows) := by
    rw [List.flatMap_map, textOf, List.flatMap_assoc]
    exact List.flatMap_congr fun f _ => toList_renderCollectors f im _
  rw [listings, List.flatMap_append, List.flatMap_append, textOf_append, textOf_append, ← totals, ← totals]
  unfold InternalMetrics.renderPrometheus
  dsimp only
  split_ifs with none
  · simp only [String.toList_append, firstTotals, lastTotals, List.flatMap_cons, List.flatMap_nil, List.append_nil,
      List.append_assoc]
    rfl
  · rw [← collectors]
    simp only [String.toList_append, firstTotals, lastTotals, perCollector, List.flatMap_cons, List.flatMap_nil,
      List.append_nil, List.append_assoc]
    rfl

theorem entries_perm (im : InternalMetrics) (order order' : RandomState) :
    (entriesOf im (im.sortedCollectors order)).Perm
      ((im.collectorStats.iter order').map fun e => (some e.1, e.2)) := by
  have walked : entriesOf im ((im.collectorStats.iter order').map (·.1)) =
      (im.collectorStats.iter order').map fun e => (some e.1, e.2) := by
    rw [entriesOf, List.filterMap_map, ← List.filterMap_eq_map]
    apply List.filterMap_congr
    rintro ⟨c, s⟩ member
    rw [Function.comp_apply, HashMap.mem_iter.mp member]
    rfl
  have keys : (im.sortedCollectors order).Perm ((im.collectorStats.iter order').map (·.1)) := by
    apply (List.mergeSort_perm _ _).trans
    exact ((HashMap.iter_perm order _).trans (HashMap.iter_perm order' _).symm).map _
  rw [← walked]
  exact keys.filterMap _

theorem values_perm (im : InternalMetrics) (order order' : RandomState) (now : Instant) (clock : SystemTime) :
    ((listings im (im.sortedCollectors order) now).flatMap (·.values clock)).Perm
      (im.toMetricValues order' now clock) := by
  have collectors : ((if (im.sortedCollectors order).isEmpty then []
        else perCollector.map fun f => Listing.mk f (entriesOf im (im.sortedCollectors order))).flatMap
          (·.values clock)).Perm
        ((im.collectorStats.iter order').flatMap fun e => InternalMetrics.collectorValues clock e.1 e.2) := by
    have all : (if (im.sortedCollectors order).isEmpty then []
        else perCollector.map fun f => Listing.mk f (entriesOf im (im.sortedCollectors order))).flatMap
          (·.values clock) =
        perCollector.flatMap fun f => (entriesOf im (im.sortedCollectors order)).map (f.metricValue clock) := by
      split_ifs with none
      · rw [List.isEmpty_iff.mp none]
        rfl
      · rw [List.flatMap_map]
        rfl
    have each : ((im.collectorStats.iter order').flatMap fun e => InternalMetrics.collectorValues clock e.1 e.2) =
        ((im.collectorStats.iter order').map fun e => (some e.1, e.2)).flatMap fun item =>
          perCollector.map (·.metricValue clock item) := by
      rw [List.flatMap_map]
      rfl
    rw [all, each]
    refine List.Perm.trans (List.Perm.flatMap_left _ fun f _ => (entries_perm im order order').map _) ?_
    exact flatMap_map_comm (fun (f : Listed CollectorStats) item => f.metricValue clock item) perCollector _
  rw [listings, List.flatMap_append, List.flatMap_append]
  exact ((List.Perm.refl _).append collectors).append (List.Perm.refl _)

def PlainLabel (label : Option String) : Prop := ∀ c ∈ label, Plain c.toList

namespace Listed
variable {σ : Type} (f : Listed σ)

theorem print_sample {item : Item σ} (plain : PlainLabel item.1) : (f.sample item).print = (f.row item).1 := by
  obtain ⟨label, s⟩ := item
  cases label with
  | none => rfl
  | some c =>
      have same : escapeValue c.toList = c.toList := escapeValue_plain (plain c rfl)
      simp [Sample.print, sample, row, rowHead, printLabels, printLabel, same]

theorem not_mem_text {c : Char} (other : F64.numeric c = false) (s : σ) : c ∉ (f.text s).toList := by
  intro member
  rw [f.numeric s c member] at other
  cases other

theorem wellFormed (items : List (Item σ)) : ∀ line ∈ (f.family items).lines, line.WellFormed := by
  intro line member
  rcases List.mem_cons.mp member with rfl | member
  · exact f.named
  rcases List.mem_cons.mp member with rfl | member
  · refine ⟨f.named, ?_⟩
    show '\n' ∉ (Prometheus.typeStr f.metricType).toList
    cases f.metricType <;> decide
  · obtain ⟨s, inFamily, rfl⟩ := List.mem_map.mp member
    obtain ⟨⟨label, s⟩, -, rfl⟩ := List.mem_map.mp inFamily
    refine ⟨f.named, ?_, f.not_mem_text rfl s⟩
    intro pair inLabels
    obtain ⟨c, -, rfl⟩ := List.mem_map.mp inLabels
    show validName "collector".toList = true
    rfl

theorem textOf_rows {items : List (Item σ)} (plain : ∀ item ∈ items, PlainLabel item.1) :
    textOf (f.rows items) = print (f.family items).lines := by
  have samples : (items.map f.row).flatMap (fun row => row.1 ++ ['\n']) =
      ((f.family items).samples.map Line.sample).flatMap fun line => line.print ++ ['\n'] := by
    simp only [family, List.flatMap_map]
    apply List.flatMap_congr
    intro item member
    rw [Line.print, f.print_sample (plain item member)]
  simp only [textOf, rows, print, Family.lines, List.flatMap_cons, samples]
  rfl

theorem forall₂_agrees (clock : SystemTime) (items : List (Item σ)) :
    List.Forall₂ Agrees ((f.family items).samples.map fun s => (some (f.family items).kind, s))
      (items.map (f.metricValue clock)) := by
  simp only [family, List.map_map, List.forall₂_map_left_iff, List.forall₂_map_right_iff, List.forall₂_same]
  intro item _
  exact f.agrees clock item

end Listed

theorem textOf_plain {all : List Listing} (plain : ∀ l ∈ all, ∀ item ∈ l.items, PlainLabel item.1) :
    textOf (all.flatMap Listing.rows) = print ((all.map Listing.family).flatMap Family.lines) := by
  simp only [textOf, print, List.flatMap_map, List.flatMap_assoc]
  exact List.flatMap_congr fun l member => l.metric.textOf_rows (plain l member)

theorem forall₂_agrees (all : List Listing) (clock : SystemTime) :
    List.Forall₂ Agrees ((all.map Listing.family).flatMap fun f => f.samples.map fun s => (some f.kind, s))
      (all.flatMap (·.values clock)) := by
  induction all with
  | nil => exact .nil
  | cons l all ih => exact List.rel_append (l.metric.forall₂_agrees clock l.items) ih

theorem plain_listings {im : InternalMetrics} (plain : ∀ c ∈ im.collectorStats, Plain c.toList)
    (collectors : List String) (now : Instant) :
    ∀ l ∈ listings im collectors now, ∀ item ∈ l.items, PlainLabel item.1 := by
  have total : ∀ item ∈ [((none, im) : Item InternalMetrics)], PlainLabel item.1 := by
    intro item inside
    rw [List.mem_singleton.mp inside]
    nofun
  intro l member
  rw [listings, List.mem_append, List.mem_append] at member
  rcases member with (first | collector) | last
  · obtain ⟨f, -, rfl⟩ := List.mem_map.mp first
    exact total
  · split_ifs at collector
    · cases collector
    · obtain ⟨f, -, rfl⟩ := List.mem_map.mp collector
      intro item inside
      obtain ⟨c, -, found⟩ := List.mem_filterMap.mp inside
      obtain ⟨s, stored, rfl⟩ := Option.map_eq_some_iff.mp found
      rintro c ⟨⟩
      exact plain c (AList.lookup_isSome.mp (by rw [stored]; rfl))
  · obtain ⟨f, -, rfl⟩ := List.mem_map.mp last
    exact total

theorem lists_of_plain {im : InternalMetrics} (plain : ∀ c ∈ im.collectorStats, Plain c.toList)
    (order order' : RandomState) (now : Instant) (clock : SystemTime) :
    Lists (im.renderPrometheus order now) (im.toMetricValues order' now clock) := by
  have families : ∀ f ∈ (listings im (im.sortedCollectors order) now).map Listing.family,
      (∀ s ∈ f.samples, s.name = f.name) ∧ ∀ line ∈ f.lines, line.WellFormed := by
    intro f inFamilies
    obtain ⟨l, -, rfl⟩ := List.mem_map.mp inFamilies
    refine ⟨?_, l.metric.wellFormed l.items⟩
    intro s member
    obtain ⟨item, -, rfl⟩ := List.mem_map.mp member
    rfl
  have read : parse (im.renderPrometheus order now).toList =
      some (((listings im (im.sortedCollectors order) now).map Listing.family).flatMap Family.lines) := by
    rw [toList_renderPrometheus, textOf_plain (plain_listings plain _ now)]
    apply parse_print
    intro line member
    obtain ⟨f, inFamilies, inFamily⟩ := List.mem_flatMap.mp member
    exact (families f inFamilies).2 line inFamily
  have agree := forall₂_agrees (listings im (im.sortedCollectors order) now) clock
  rw [← typed_families fun f member => (families f member).1] at agree
  exact ⟨_, _, read, values_perm im order order' now clock, agree⟩

def sampleHead (name : String) (label : Option String) : Text :=
  Sample.head ⟨name.toList, label.toList.map fun c => ("collector".toList, c.toList), []⟩

theorem length_heads (name c : String) :
    (sampleHead name (some c)).length + c.toList.length =
      (rowHead name (some c)).length + (escapeValue c.toList).length := by
  have head : sampleHead name (some c) = name.toList ++ '{' ::
      ("collector".toList ++ '=' :: '"' :: (escapeValue c.toList ++ ['"']) ++ ['}']) := rfl
  have braces : "\x7bcollector=\"".toList.length = "collector".toList.length + 3 ∧ "\"\x7d".toList.length = 2 := by
    decide
  rw [head, rowHead]
  simp only [List.length_append, List.length_cons, List.length_nil, braces]
  omega

theorem length_sampleHead (name : String) (label : Option String) :
    (rowHead name label).length ≤ (sampleHead name label).length := by
  cases label with
  | none => exact Nat.le_refl _
  | some c =>
      have heads := length_heads name c
      have escaped := length_escapeValue c.toList
      omega

theorem length_lt_sampleHead (name : String) {c : String} (special : ¬Plain c.toList) :
    (rowHead name (some c)).length < (sampleHead name (some c)).length := by
  have heads := length_heads name c
  have escaped : ¬(escapeValue c.toList).length ≤ c.toList.length := fun short => special (plain_of_length short)
  omega

theorem sum_rows (all : List Listing) :
    ((all.flatMap Listing.rows).map (·.2)).sum =
      ((all.flatMap Listing.places).map fun p => (rowHead p.1 p.2).length).sum := by
  induction all with
  | nil => rfl
  | cons l all ih =>
      have here : (l.rows.map (·.2)).sum = (l.places.map fun p => (rowHead p.1 p.2).length).sum := by
        simp only [Listing.rows, Listed.rows, Listing.places, List.map_cons, List.sum_cons, Nat.zero_add, List.map_map]
        rfl
      simp only [List.flatMap_cons, List.map_append, List.sum_append, here, ih]

def headOf (m : MetricValue) : Text :=
  Sample.head ⟨m.name.toList, m.labels.toList.map fun (k, v) => (k.toList, v.toList), []⟩

theorem Agrees.head {read : Option Text × Sample} {m : MetricValue} (agrees : Agrees read m) :
    read.2.head = headOf m := by
  rw [Sample.head, agrees.name, agrees.labels]
  rfl

theorem headOf_metricValue {σ : Type} (f : Listed σ) (clock : SystemTime) (item : Item σ) :
    headOf (f.metricValue clock item) = sampleHead f.name item.1 :=
  (f.agrees clock item).head.symm

theorem heads_values (all : List Listing) (clock : SystemTime) :
    (all.flatMap (·.values clock)).map headOf = (all.flatMap Listing.places).map fun p => sampleHead p.1 p.2 := by
  simp only [Listing.values, Listing.places, List.map_flatMap, List.map_map, Function.comp_def, headOf_metricValue]

def Light (row : Text × Nat) : Prop := ∀ lines, parse row.1 = some lines → weight lines ≤ row.2

theorem light_rows (l : Listing) : ∀ row ∈ l.rows, Light row := by
  have wellFormed := l.metric.wellFormed []
  simp only [Family.lines, Listed.family, List.forall_mem_cons] at wellFormed
  obtain ⟨help, type, -⟩ := wellFormed
  intro row member lines read
  rcases List.mem_cons.mp member with rfl | member
  · rw [parse_line help] at read
    cases read
    exact Nat.le_refl _
  rcases List.mem_cons.mp member with rfl | member
  · rw [parse_line type] at read
    cases read
    exact Nat.le_refl _
  · obtain ⟨item, -, rfl⟩ := List.mem_map.mp member
    exact weight_row (l.metric.not_mem_text rfl _) (l.metric.not_mem_text rfl _) read

theorem weight_rows {rows : List (Text × Nat)} (light : ∀ row ∈ rows, Light row) {lines : List Line}
    (read : parse (textOf rows) = some lines) : weight lines ≤ (rows.map (·.2)).sum := by
  induction rows generalizing lines with
  | nil =>
      cases read
      exact Nat.le_refl _
  | cons row rows ih =>
      have text : textOf (row :: rows) = row.1 ++ '\n' :: textOf rows := by simp [textOf]
      rw [text] at read
      obtain ⟨front, back, here, there, rfl⟩ := parse_append read
      have first := light row List.mem_cons_self front here
      have later := ih (fun row member => light row (List.mem_cons_of_mem _ member)) there
      rw [weight_append, List.map_cons, List.sum_cons]
      omega

theorem weight_typed {lines : List Line} {values : List MetricValue}
    (agree : List.Forall₂ Agrees (typed lines) values) :
    weight lines = ((values.map headOf).map List.length).sum := by
  have heads : (typed lines).map (fun read => read.2.head) = values.map headOf := by
    rw [← List.forall₂_eq_eq_eq, List.forall₂_map_left_iff, List.forall₂_map_right_iff]
    exact agree.imp fun _ _ => Agrees.head
  rw [weight, ← typedFrom_samples [] lines, ← heads, List.map_map, List.map_map]
  rfl

theorem mem_places {im : InternalMetrics} {c : String} (member : c ∈ im.collectorStats) (order : RandomState)
    (now : Instant) : ("bus_exporter_polls_total", some c) ∈
      (listings im (im.sortedCollectors order) now).flatMap Listing.places := by
  obtain ⟨s, found⟩ := Option.isSome_iff_exists.mp (AList.lookup_isSome.mpr member)
  have entry : (some c, s) ∈ entriesOf im (im.sortedCollectors order) := by
    rw [(entries_perm im order []).mem_iff]
    exact List.mem_map.mpr ⟨⟨c, s⟩, HashMap.mem_iter.mpr found, rfl⟩
  have nonempty : (im.sortedCollectors order).isEmpty = false := by
    rw [Bool.eq_false_iff]
    intro none
    rw [List.isEmpty_iff.mp none] at entry
    cases entry
  rw [listings, nonempty, if_neg Bool.false_ne_true, List.flatMap_append, List.flatMap_append]
  refine List.mem_append_left _ (List.mem_append_right _ (List.mem_flatMap.mpr ⟨_, List.mem_cons_self, ?_⟩))
  exact List.mem_map.mpr ⟨(some c, s), entry, rfl⟩

theorem plain_of_lists {im : InternalMetrics} {order order' : RandomState} {now : Instant} {clock : SystemTime}
    (lists : Lists (im.renderPrometheus order now) (im.toMetricValues order' now clock)) :
    ∀ c ∈ im.collectorStats, Plain c.toList := by
  obtain ⟨lines, ordered, read, same, agree⟩ := lists
  rw [toList_renderPrometheus] at read
  have light : ∀ row ∈ (listings im (im.sortedCollectors order) now).flatMap Listing.rows, Light row := by
    intro row member
    obtain ⟨l, -, inRows⟩ := List.mem_flatMap.mp member
    exact light_rows l row inRows
  have bound := weight_rows light read
  have values := same.trans (values_perm im order order' now clock).symm
  rw [weight_typed agree, ((values.map headOf).map List.length).sum_eq, heads_values, List.map_map,
    sum_rows] at bound
  intro c member
  by_contra special
  have shorter := List.sum_lt_sum (fun p : String × Option String => (rowHead p.1 p.2).length)
    (fun p => (sampleHead p.1 p.2).length) (fun p _ => length_sampleHead p.1 p.2)
    ⟨_, mem_places member order now, length_lt_sampleHead _ special⟩
  exact absurd bound (Nat.not_le.mpr shorter)

/-- The scraped text lists exactly the exported values if and only if no collector's name has a character that
the text would need to escape. -/
theorem listings_agree (im : InternalMetrics) (order order' : RandomState) (now : Instant) (clock : SystemTime) :
    Lists (im.renderPrometheus order now) (im.toMetricValues order' now clock) ↔
      ∀ c ∈ im.collectorStats, Plain c.toList :=
  ⟨plain_of_lists, fun plain => lists_of_plain plain order order' now clock⟩

def quotedConfig : Config where
  exporters := { prometheus := some { enabled := true } }
  collectors := [{
    name := "boiler \"A\""
    protocol := .i2c "/dev/i2c-1" 0x48
    metrics := [{ name := "temperature", metricType := .gauge, address := some 0, dataType := .u16 }] }]

def quotedMetrics : InternalMetrics where
  startTime := 0
  collectorsTotal := 1
  collectorStats := BusExporter.InternalMetrics.updateCollector "boiler \"A\""
    (fun s => { s with pollsTotal := 1, pollsSuccess := 1 }) ∅

/-- The text ends the label at the first quote of the name, and no line of the collector can be read. -/
theorem quoted_listings_differ :
    quotedConfig.validate = .ok () ∧
      (∀ c ∈ quotedMetrics.collectorStats, c ∈ quotedConfig.collectors.map (·.name)) ∧
      ∀ order order' now clock,
        ¬Lists (quotedMetrics.renderPrometheus order now) (quotedMetrics.toMetricValues order' now clock) := by
  have valid : quotedConfig.validate = .ok () := by decide
  have names : quotedMetrics.collectorStats.keys = ["boiler \"A\""] := by decide
  refine ⟨valid, ?_, ?_⟩
  · intro c member
    rw [AList.mem_keys, names] at member
    exact member
  · intro order order' now clock lists
    have member : "boiler \"A\"" ∈ quotedMetrics.collectorStats := by
      rw [AList.mem_keys, names]
      exact List.mem_singleton_self _
    exact absurd (plain_of_lists lists _ member) (by decide)

end BusExporter.Internal
