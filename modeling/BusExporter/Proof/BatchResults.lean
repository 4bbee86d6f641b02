import BusExporter.Lib.Lists
import BusExporter.Model.BatchIndexing
import BusExporter.Proof.Requests

/-! What every batch read returns, whatever the reader answers: a result for each metric, and the number
of calls made. -/

namespace BusExporter.Modbus
open Lib Config

variable {ρ : Type}

section Indices

theorem decodeMetric_sliced (decode : Decoder.RegisterDecoder) (metric : MetricConfig)
    (regs : List UInt16) (rangeStart : UInt16) :
    Indexing.decodeMetric decode metric regs rangeStart =
      .ok (decodeMetric decode metric regs rangeStart) := by
  unfold Indexing.decodeMetric decodeMetric
  cases metric.address with
  | none => rfl
  | some addr =>
      simp only
      split_ifs with early short
      · rfl
      · rfl
      · rw [Indexing.slice, if_pos ⟨Nat.le_add_right _ _, Nat.not_lt.mp short⟩]
        rfl

variable (decode : Decoder.RegisterDecoder) (reader : ModbusReader ρ)

theorem put_indexed (st : BatchState ρ) {idx : Nat} (inside : idx < st.results.length)
    (outcome : Outcome) : Indexing.put st idx outcome = .ok (st.put idx outcome) := by
  rw [Indexing.put, Indexing.set, if_pos inside]
  rfl

theorem readIndividually_indexed {st : BatchState ρ} {idx : Nat} (inside : idx < st.results.length)
    (metric : MetricConfig) :
    Indexing.readIndividually decode reader st idx metric =
      .ok (readIndividually decode reader st idx metric) := by
  unfold Indexing.readIndividually readIndividually
  cases readSingle decode reader metric st.world with
  | mk outcome w =>
      exact put_indexed { st with readCount := st.readCount + 1, world := w } inside outcome

theorem length_readIndividually (st : BatchState ρ) (idx : Nat) (metric : MetricConfig) :
    (readIndividually decode reader st idx metric).results.length = st.results.length :=
  List.length_set

theorem readRange_indexed (readRegisters : UInt16 → UInt16 → ρ → Result (List UInt16) × ρ)
    {st : BatchState ρ} {range : MergedRange}
    (inside : ∀ m ∈ range.members, m.idx < st.results.length) :
    Indexing.readRange decode reader readRegisters st range =
        .ok (readRange decode reader readRegisters st range) ∧
      (readRange decode reader readRegisters st range).results.length = st.results.length := by
  unfold Indexing.readRange readRange
  let sized : BatchState ρ → Prop := fun st' => st'.results.length = st.results.length
  cases readRegisters range.start range.count st.world with
  | mk reply w =>
      have asked : sized { st with readCount := st.readCount + 1, world := w } := rfl
      cases reply with
      | ok regs =>
          apply foldlM_ok sized asked
          intro st' member inMembers long
          refine ⟨?_, List.length_set.trans long⟩
          rw [decodeMetric_sliced]
          exact put_indexed _ (by rw [long]; exact inside member inMembers) _
      | error e =>
          apply foldlM_ok sized asked
          intro st' member inMembers long
          refine ⟨?_, (length_readIndividually decode reader st' _ _).trans long⟩
          exact readIndividually_indexed decode reader (by rw [long]; exact inside member inMembers) _

theorem readRanges_indexed (readRegisters : UInt16 → UInt16 → ρ → Result (List UInt16) × ρ)
    {ranges : List MergedRange} {n : Nat} (inside : ∀ r ∈ ranges, ∀ m ∈ r.members, m.idx < n)
    {st : BatchState ρ} (long : st.results.length = n) :
    ranges.foldlM (Indexing.readRange decode reader readRegisters) st =
        .ok (ranges.foldl (readRange decode reader readRegisters) st) ∧
      (ranges.foldl (readRange decode reader readRegisters) st).results.length = n := by
  apply foldlM_ok (fun st : BatchState ρ => st.results.length = n) long
  intro st range member long
  have placed : ∀ m ∈ range.members, m.idx < st.results.length := by
    rw [long]
    exact inside range member
  obtain ⟨same, kept⟩ := readRange_indexed decode reader readRegisters placed
  exact ⟨same, kept.trans long⟩

theorem readAlone_indexed {individual : List (Nat × MetricConfig)} {n : Nat}
    (inside : ∀ entry ∈ individual, entry.1 < n) {st : BatchState ρ} (long : st.results.length = n) :
    individual.foldlM (fun st m => Indexing.readIndividually decode reader st m.1 m.2) st =
        .ok (individual.foldl (fun st m => readIndividually decode reader st m.1 m.2) st) ∧
      (individual.foldl (fun st m => readIndividually decode reader st m.1 m.2) st).results.length = n := by
  apply foldlM_ok (fun st : BatchState ρ => st.results.length = n) long
  intro st entry member long
  exact ⟨readIndividually_indexed decode reader (by rw [long]; exact inside entry member) entry.2,
    (length_readIndividually decode reader st _ _).trans long⟩

theorem classify_append (l l' : List (MetricConfig × Nat)) :
    classify (l ++ l') =
      ⟨(classify l).holding ++ (classify l').holding, (classify l).input ++ (classify l').input,
        (classify l).individual ++ (classify l').individual,
        (classify l).results ++ (classify l').results⟩ := by
  induction l with
  | nil => rfl
  | cons head l ih =>
      obtain ⟨m, idx⟩ := head
      rw [List.cons_append]
      simp only [classify, ih]
      cases m.address with
      | none => rfl
      | some addr => cases m.registerType.getD .holding <;> rfl

def Classified.padded (c : Classified) (n : Nat) : Classified :=
  { c with results := c.results ++ List.replicate n none }

theorem classifyNext_indexed (l : List (MetricConfig × Nat)) (m : MetricConfig) (n : Nat) :
    Indexing.classifyNext ((classify l).padded (n + 1)) (m, l.length) =
      .ok ((classify (l ++ [(m, l.length)])).padded n) := by
  have long := length_classify_results l
  rw [classify_append, Indexing.classifyNext]
  simp only [classify, Classified.padded]
  cases m.address with
  | none =>
      have inside : l.length < ((classify l).results ++ List.replicate (n + 1) none).length := by
        rw [List.length_append, List.length_replicate]
        omega
      simp only [Indexing.set, if_pos inside]
      rw [← long, List.set_append_right _ _ (le_refl _), Nat.sub_self, List.replicate_succ]
      simp
      rfl
  | some addr => cases m.registerType.getD .holding <;> simp [List.replicate_succ]

theorem classify_indexed (metrics : List MetricConfig) :
    Indexing.classify metrics = .ok (classify metrics.zipIdx) := by
  have whole (before rest : List MetricConfig) :
      (rest.zipIdx before.length).foldlM Indexing.classifyNext
          ((classify before.zipIdx).padded rest.length) =
        .ok ((classify (before ++ rest).zipIdx).padded 0) := by
    induction rest generalizing before with
    | nil =>
        rw [List.append_nil]
        rfl
    | cons m rest ih =>
        have next := classifyNext_indexed before.zipIdx m rest.length
        rw [List.length_zipIdx] at next
        have joined : before.zipIdx ++ [(m, before.length)] = (before ++ [m]).zipIdx := by
          simp [List.zipIdx_append]
        rw [joined] at next
        rw [List.zipIdx_cons, List.foldlM_cons, List.length_cons, next]
        have later := ih (before ++ [m])
        rw [List.length_append, List.append_assoc] at later
        exact later
  have all := whole [] metrics
  simpa [Indexing.classify, Classified.padded, classify] using all

theorem mapM_get {α β γ : Type} (f : α → β → γ) {xs : List α} {ys : List β}
    (same : xs.length = ys.length) :
    (xs.zipIdx.mapM fun (x, i) => do
        let y ← Indexing.get ys i
        Except.ok (f x y)) = .ok ((xs.zip ys).map fun (x, y) => f x y) := by
  have whole (xs : List α) (before rest : List β) (same : xs.length = rest.length) :
      ((xs.zipIdx before.length).mapM fun (x, i) => do
          let y ← Indexing.get (before ++ rest) i
          Except.ok (f x y)) = .ok ((xs.zip rest).map fun (x, y) => f x y) := by
    induction xs generalizing before rest with
    | nil => rfl
    | cons x xs ih =>
        cases rest with
        | nil => cases same
        | cons y rest =>
            have here : Indexing.get (before ++ y :: rest) before.length = .ok y := by
              simp [Indexing.get]
            have later := ih (before ++ [y]) rest (Nat.succ.inj same)
            rw [List.length_append, List.append_assoc] at later
            rw [List.zipIdx_cons, List.mapM_cons]
            simp only [here]
            exact congrArg (fun tail => do
              let tail ← tail
              pure (f x y :: tail)) later
  exact whole xs [] ys same

theorem batchReads_indexed (metrics : List MetricConfig) (w : ρ) :
    Indexing.batchReads decode reader (classify metrics.zipIdx) w =
        .ok (batchReads decode reader (classify metrics.zipIdx) w) ∧
      (batchReads decode reader (classify metrics.zipIdx) w).results.length = metrics.length := by
  obtain ⟨holding, input, individual⟩ := classify_stands metrics.zipIdx
  have width : (classify metrics.zipIdx).results.length = metrics.length := by
    rw [length_classify_results, List.length_zipIdx]
  have ofItem {kind : RegisterType} {items : List IndexedMetric}
      (stands : ∀ item ∈ items, Stands metrics.zipIdx kind item) :
      ∀ r ∈ coalesce (sortByAddr items), ∀ m ∈ r.members, m.idx < metrics.length := by
    intro r planned m member
    have found := (stands m (mem_of_planned planned member)).member
    exact (List.getElem?_eq_some_iff.mp (List.mem_zipIdx_iff_getElem?.mp found)).1
  have ofEntry : ∀ entry ∈ (classify metrics.zipIdx).individual, entry.1 < metrics.length := by
    intro entry member
    have found := (individual entry member).member
    exact (List.getElem?_eq_some_iff.mp (List.mem_zipIdx_iff_getElem?.mp found)).1
  have begins : (BatchState.mk (classify metrics.zipIdx).results 0 w).results.length = metrics.length :=
    width
  obtain ⟨first, firstLong⟩ := readRanges_indexed decode reader reader.readHoldingRegisters
    (ofItem holding) begins
  obtain ⟨second, secondLong⟩ := readRanges_indexed decode reader reader.readInputRegisters
    (ofItem input) firstLong
  obtain ⟨third, thirdLong⟩ := readAlone_indexed decode reader ofEntry secondLong
  refine ⟨?_, thirdLong⟩
  simp only [Indexing.batchReads, first, second, bind, Except.bind]
  exact third

theorem batchReadWith_indexed (metrics : List MetricConfig) (w : ρ) :
    Indexing.batchReadWith decode reader metrics w = .ok (batchReadWith decode reader metrics w) := by
  obtain ⟨reads, long⟩ := batchReads_indexed decode reader metrics w
  have output := mapM_get (fun (m : MetricConfig) (r : Option Outcome) =>
    (m, r.getD (.error (notProcessed m)))) long.symm
  simp only [bind, Except.bind] at output
  simp only [Indexing.batchReadWith, classify_indexed, reads, output, bind, Except.bind]
  rfl

end Indices

section Slots
variable (decode : Decoder.RegisterDecoder) (reader : ModbusReader ρ)

inductive Answers (metric : MetricConfig) : Outcome → Prop
  | unaddressed : metric.address = none → Answers metric (.error (noAddress metric))
  | holding {start count : UInt16} {w w' : ρ} {regs : List UInt16} :
      metric.registerType.getD .holding = .holding →
        reader.readHoldingRegisters start count w = (.ok regs, w') →
        Answers metric (decodeMetric decode metric regs start)
  | input {start count : UInt16} {w w' : ρ} {regs : List UInt16} :
      metric.registerType.getD .holding = .input →
        reader.readInputRegisters start count w = (.ok regs, w') →
        Answers metric (decodeMetric decode metric regs start)
  | alone (w : ρ) : Answers metric (readSingle decode reader metric w).1

variable (metrics : List MetricConfig)

def Paired (results : List (Option Outcome)) : Prop :=
  ∀ (i : Nat) m outcome, metrics[i]? = some m → results[i]? = some (some outcome) →
    Answers decode reader m outcome

def Settled (st : BatchState ρ) (i : Nat) : Prop := ∃ outcome, st.results[i]? = some (some outcome)

structure Settles (st st' : BatchState ρ) (keys : List Nat) : Prop where
  length : st'.results.length = st.results.length
  keeps : ∀ i, Settled st i → Settled st' i
  settles : ∀ i ∈ keys, i < st.results.length → Settled st' i
  paired : Paired decode reader metrics st.results → Paired decode reader metrics st'.results

theorem settles_asked (st : BatchState ρ) (readCount : Nat) (w : ρ) :
    Settles decode reader metrics st { st with readCount, world := w } [] where
  length := rfl
  keeps _ settled := settled
  settles _ member := absurd member (by simp)
  paired paired := paired

variable {decode reader metrics}

theorem Settles.trans {st st' st'' : BatchState ρ} {keys keys' : List Nat}
    (first : Settles decode reader metrics st st' keys)
    (second : Settles decode reader metrics st' st'' keys') :
    Settles decode reader metrics st st'' (keys ++ keys') where
  length := second.length.trans first.length
  keeps i settled := second.keeps i (first.keeps i settled)
  settles i member inside := by
    rcases List.mem_append.mp member with early | late
    · exact second.keeps i (first.settles i early inside)
    · exact second.settles i late (by rwa [first.length])
  paired paired := second.paired (first.paired paired)

theorem settles_fold {α : Type} {f : BatchState ρ → α → BatchState ρ} {keys : α → List Nat} {l : List α}
    (step : ∀ a ∈ l, ∀ st, Settles decode reader metrics st (f st a) (keys a)) (st : BatchState ρ) :
    Settles decode reader metrics st (l.foldl f st) (l.flatMap keys) := by
  induction l generalizing st with
  | nil => exact settles_asked decode reader metrics st st.readCount st.world
  | cons a l ih =>
      rw [List.foldl_cons, List.flatMap_cons]
      exact (step a (by simp) st).trans (ih (fun b member => step b (by simp [member])) (f st a))

theorem settles_put {st : BatchState ρ} {idx : Nat} {m : MetricConfig} {outcome : Outcome}
    (place : metrics[idx]? = some m) (answers : Answers decode reader m outcome) :
    Settles decode reader metrics st (st.put idx outcome) [idx] where
  length := List.length_set
  keeps i settled := by
    obtain ⟨old, found⟩ := settled
    have inside := (List.getElem?_eq_some_iff.mp found).1
    by_cases same : idx = i
    · exact ⟨outcome, by rw [BatchState.put, ← same, List.getElem?_set_self (by rwa [same])]⟩
    · exact ⟨old, by rw [BatchState.put, List.getElem?_set_ne same, found]⟩
  settles i member inside := by
    obtain rfl := List.mem_singleton.mp member
    exact ⟨outcome, List.getElem?_set_self inside⟩
  paired paired := by
    intro i m' outcome' found stored
    by_cases same : idx = i
    · subst same
      have inside : idx < st.results.length := by
        have := (List.getElem?_eq_some_iff.mp stored).1
        rwa [BatchState.put, List.length_set] at this
      rw [BatchState.put, List.getElem?_set_self inside, Option.some.injEq, Option.some.injEq] at stored
      rw [place, Option.some.injEq] at found
      rwa [← stored, ← found]
    · rw [BatchState.put, List.getElem?_set_ne same] at stored
      exact paired i m' outcome' found stored

theorem settles_individually {idx : Nat} {m : MetricConfig} (place : metrics[idx]? = some m)
    (st : BatchState ρ) :
    Settles decode reader metrics st (readIndividually decode reader st idx m) [idx] :=
  (settles_asked decode reader metrics st (st.readCount + 1) _).trans (settles_put place (.alone st.world))

theorem settles_range {readRegisters : UInt16 → UInt16 → ρ → Result (List UInt16) × ρ}
    {range : MergedRange} (place : ∀ m ∈ range.members, metrics[m.idx]? = some m.metric)
    (answers : ∀ m ∈ range.members, ∀ {start count w regs w'},
      readRegisters start count w = (.ok regs, w') →
        Answers decode reader m.metric (decodeMetric decode m.metric regs start))
    (st : BatchState ρ) :
    Settles decode reader metrics st (readRange decode reader readRegisters st range)
      (range.members.map (·.idx)) := by
  unfold readRange
  cases answered : readRegisters range.start range.count st.world with
  | mk reply w =>
      have asked := settles_asked decode reader metrics st (st.readCount + 1) w
      have keys : range.members.map (·.idx) = [] ++ range.members.flatMap fun m => [m.idx] := by
        rw [List.map_eq_flatMap, List.nil_append]
      rw [keys]
      cases reply with
      | ok regs =>
          apply asked.trans
          apply settles_fold
          intro m member st
          exact settles_put (place m member) (answers m member answered)
      | error e =>
          apply asked.trans
          apply settles_fold
          intro m member st
          exact settles_individually (place m member) st

theorem classify_results_get {i : Nat} {m : MetricConfig} (found : metrics[i]? = some m) :
    (classify metrics.zipIdx).results[i]? =
      some (if m.address.isSome then none else some (.error (noAddress m))) := by
  rw [classify_results, List.getElem?_map, List.getElem?_zipIdx, found]
  rfl

theorem classify_paired : Paired decode reader metrics (classify metrics.zipIdx).results := by
  intro i m outcome found stored
  rw [classify_results_get found, Option.some.injEq] at stored
  cases address : m.address with
  | none =>
      rw [if_neg (by simp [address]), Option.some.injEq] at stored
      rw [← stored]
      exact .unaddressed address
  | some addr =>
      rw [if_pos (by simp [address])] at stored
      cases stored

variable (decode reader)

theorem settles_ranges (readRegisters : UInt16 → UInt16 → ρ → Result (List UInt16) × ρ)
    {kind : RegisterType} {items : List IndexedMetric}
    (stands : ∀ item ∈ items, Stands metrics.zipIdx kind item)
    (answers : ∀ {m : MetricConfig}, m.registerType.getD .holding = kind → ∀ {start count w regs w'},
      readRegisters start count w = (.ok regs, w') →
        Answers decode reader m (decodeMetric decode m regs start))
    (st : BatchState ρ) :
    Settles decode reader metrics st
      ((coalesce (sortByAddr items)).foldl (readRange decode reader readRegisters) st)
      ((coalesce (sortByAddr items)).flatMap fun r => r.members.map (·.idx)) := by
  apply settles_fold
  intro r planned st
  apply settles_range
  · intro m member
    exact List.mem_zipIdx_iff_getElem?.mp (stands m (mem_of_planned planned member)).member
  · intro m member
    exact answers (stands m (mem_of_planned planned member)).kind

theorem ranges_keys (items : List IndexedMetric) :
    ((coalesce (sortByAddr items)).flatMap fun r => r.members.map (·.idx)).Perm
      (items.map (·.idx)) := by
  rw [← List.map_flatMap, coalesce_members]
  exact (sortByAddr_perm items).map _

variable (metrics)

theorem batchReads_settles (w : ρ) :
    ∃ keys, keys.Perm (classify metrics.zipIdx).keys ∧
      Settles decode reader metrics ⟨(classify metrics.zipIdx).results, 0, w⟩
        (batchReads decode reader (classify metrics.zipIdx) w) keys := by
  obtain ⟨holding, input, individual⟩ := classify_stands metrics.zipIdx
  have first := settles_ranges decode reader reader.readHoldingRegisters holding
    (fun kind _ _ _ _ _ answered => .holding kind answered) ⟨(classify metrics.zipIdx).results, 0, w⟩
  have second := settles_ranges decode reader reader.readInputRegisters input
    (fun kind _ _ _ _ _ answered => .input kind answered)
  have third (st : BatchState ρ) : Settles decode reader metrics st
      ((classify metrics.zipIdx).individual.foldl (fun st m => readIndividually decode reader st m.1 m.2) st)
      ((classify metrics.zipIdx).individual.flatMap fun entry => [entry.1]) := by
    apply settles_fold
    intro entry member st
    exact settles_individually (List.mem_zipIdx_iff_getElem?.mp (individual entry member).member) st
  refine ⟨_, ?_, first.trans ((second _).trans (third _))⟩
  rw [← List.map_eq_flatMap]
  exact (ranges_keys _).append ((ranges_keys _).append (.refl _))

theorem batchReads_slots (w : ρ) :
    let slots := (batchReads decode reader (classify metrics.zipIdx) w).results
    slots.length = metrics.length ∧ Paired decode reader metrics slots ∧ ∀ slot ∈ slots, slot.isSome := by
  obtain ⟨keys, perm, settles⟩ := batchReads_settles decode reader metrics w
  have width : (classify metrics.zipIdx).results.length = metrics.length := by
    rw [length_classify_results, List.length_zipIdx]
  have long := settles.length.trans width
  refine ⟨long, settles.paired classify_paired, ?_⟩
  intro slot member
  obtain ⟨i, inside, rfl⟩ := List.getElem_of_mem member
  have position : i < metrics.length := by rwa [long] at inside
  have found : metrics[i]? = some metrics[i] := List.getElem?_eq_getElem position
  have settled : Settled (batchReads decode reader (classify metrics.zipIdx) w) i := by
    cases address : metrics[i].address with
    | none =>
        apply settles.keeps
        exact ⟨_, by rw [classify_results_get found, if_neg (by simp [address])]⟩
    | some addr =>
        apply settles.settles i _ (by rwa [width])
        rw [perm.mem_iff, (classify_keys metrics.zipIdx).mem_iff, List.mem_map]
        refine ⟨(metrics[i], i), List.mem_filter.mpr ⟨?_, by simp [address]⟩, rfl⟩
        exact List.mem_zipIdx_iff_getElem?.mpr found
  obtain ⟨outcome, stored⟩ := settled
  obtain ⟨_, value⟩ := List.getElem?_eq_some_iff.mp stored
  rw [value]
  rfl

end Slots

section Counts
variable (decode : Decoder.RegisterDecoder) (reader : ModbusReader ρ)

def Counted (st : BatchState (ρ × List Request)) : Prop := st.world.2.length = st.readCount

variable {st : BatchState (ρ × List Request)}

theorem readIndividually_counted (counted : Counted st) (idx : Nat) {m : MetricConfig}
    (present : m.address.isSome) :
    Counted (readIndividually decode (logged reader) st idx m) := by
  obtain ⟨addr, address⟩ := Option.isSome_iff_exists.mp present
  have log := readSingle_log decode reader m st.world
  change (readSingle decode (logged reader) m st.world).2.2.length = st.readCount + 1
  rw [log, List.length_append, counted]
  simp [singleRequest, address]

theorem readRange_counted (counted : Counted st) {range : MergedRange}
    {readRegisters : UInt16 → UInt16 → ρ × List Request → Result (List UInt16) × (ρ × List Request)}
    {ask : UInt16 → UInt16 → Request}
    (asks : ∀ addr count s, (readRegisters addr count s).2.2 = s.2 ++ [ask addr count])
    (present : ∀ m ∈ range.members, m.metric.address.isSome) :
    Counted (readRange decode (logged reader) readRegisters st range) := by
  have first := asks range.start range.count st.world
  unfold readRange
  cases answered : readRegisters range.start range.count st.world with
  | mk reply s =>
      have asked : Counted ⟨st.results, st.readCount + 1, s⟩ := by
        rw [answered] at first
        rw [Counted, first, List.length_append, counted]
        rfl
      cases reply with
      | ok regs =>
          apply List.foldlRecOn (motive := Counted) _ _ asked
          intro st counted m member
          exact counted
      | error e =>
          apply List.foldlRecOn (motive := Counted) _ _ asked
          intro st counted m member
          exact readIndividually_counted decode reader counted m.idx (present m member)

theorem batchReads_counted (metrics : List MetricConfig) (w : ρ) :
    Counted (batchReads decode (logged reader) (classify metrics.zipIdx) (w, [])) := by
  obtain ⟨holding, input, individual⟩ := classify_stands metrics.zipIdx
  have present {kind : RegisterType} {items : List IndexedMetric}
      (stands : ∀ item ∈ items, Stands metrics.zipIdx kind item) :
      ∀ r ∈ coalesce (sortByAddr items), ∀ m ∈ r.members, m.metric.address.isSome := by
    intro r planned m member
    rw [(stands m (mem_of_planned planned member)).address]
    rfl
  apply List.foldlRecOn (motive := Counted)
  · apply List.foldlRecOn (motive := Counted)
    · apply List.foldlRecOn (motive := Counted)
      · rfl
      · intro st counted r planned
        exact readRange_counted decode reader counted (fun _ _ _ => rfl) (present holding r planned)
    · intro st counted r planned
      exact readRange_counted decode reader counted (fun _ _ _ => rfl) (present input r planned)
  · intro st counted entry member
    exact readIndividually_counted decode reader counted entry.1 (individual entry member).address

end Counts

/-- A batch read never indexes outside a list, returns an answer for each metric in order and about
that metric, none of them the default, and counts the calls that it makes. -/
theorem batch_complete (reader : ModbusReader ρ) (metrics : List MetricConfig) (w : ρ) :
    let (result, w') := batchReadCoalesced reader metrics w
    Indexing.batchReadCoalesced reader metrics w = .ok (result, w') ∧
      result.results.map Prod.fst = metrics ∧
      (∀ r ∈ result.results, Answers Decoder.decode reader r.1 r.2) ∧
      (∀ slot ∈ (batchReads Decoder.decode reader (classify metrics.zipIdx) w).results, slot.isSome) ∧
      (batchReadCoalesced (logged reader) metrics (w, [])).map id Prod.fst = (result, w') ∧
      result.readCount = (issued reader metrics w).length := by
  obtain ⟨long, paired, settled⟩ := batchReads_slots Decoder.decode reader metrics w
  have forgets := batchReadWith_forget Decoder.decode (logged_forgets reader) metrics (w, [])
  refine ⟨batchReadWith_indexed Decoder.decode reader metrics w, ?_, ?_, settled, forgets, ?_⟩
  · change List.map Prod.fst (List.map _ (metrics.zip _)) = metrics
    rw [List.map_map]
    exact List.map_fst_zip long.ge
  · intro r member
    obtain ⟨entry, inZip, rfl⟩ := List.mem_map.mp member
    obtain ⟨i, inside, rfl⟩ := List.getElem_of_mem inZip
    rw [List.getElem_zip] at inZip ⊢
    obtain ⟨outcome, written⟩ := Option.isSome_iff_exists.mp (settled _ (List.of_mem_zip inZip).2)
    simp only [written, Option.getD_some]
    rw [List.length_zip] at inside
    apply paired i
    · exact List.getElem?_eq_getElem (by omega)
    · rw [← written]
      exact List.getElem?_eq_getElem (by omega)
  · have counted := batchReads_counted Decoder.decode reader metrics w
    have count := congrArg (fun answer => answer.1.readCount) forgets
    exact count.symm.trans counted.symm

end BusExporter.Modbus
