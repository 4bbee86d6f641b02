import BusExporter.Model.Collector

/-! The caches of a collector and the snapshot made of them, by the series of each name. -/

namespace BusExporter.Collector
open Lib Config

structure Series where
  name : String
  value : Float
  metricType : Metrics.MetricType
  description : String
  unit : String

def seriesOf (v : MetricValue) : Series := ⟨v.name, v.value, v.metricType, v.description, v.unit⟩

def Named (cache : HashMap String MetricValue) : Prop := ∀ k v, cache.lookup k = some v → v.name = k

theorem named_empty : Named ∅ := by
  intro k v found
  simp at found

theorem Named.insert {cache : HashMap String MetricValue} (named : Named cache) (v : MetricValue) :
    Named (cache.insert v.name v) := by
  intro k w found
  by_cases same : k = v.name
  · subst same
    rw [AList.lookup_insert] at found
    cases found
    rfl
  · rw [AList.lookup_insert_ne same] at found
    exact named k w found

theorem filter_named {l : List (Σ _ : String, MetricValue)} (nodup : l.NodupKeys)
    (named : ∀ e ∈ l, e.2.name = e.1) (k : String) :
    (l.map (·.2)).filter (·.name = k) = (l.dlookup k).toList := by
  induction l with
  | nil => simp
  | cons e l ih =>
      obtain ⟨key, v⟩ := e
      obtain ⟨fresh, nodup⟩ := List.nodupKeys_cons.mp nodup
      have first : v.name = key := named ⟨key, v⟩ (by simp)
      have rest := ih nodup fun e member => named e (by simp [member])
      by_cases same : key = k
      · subst same
        rw [List.dlookup_eq_none.mpr fresh] at rest
        simp [first, rest]
      · simp [first, same, rest, List.dlookup_cons_ne l ⟨key, v⟩ (Ne.symm same)]

theorem filter_values {cache : HashMap String MetricValue} (named : Named cache) (order : RandomState)
    (k : String) :
    ((cache.iter order).map (·.2)).filter (·.name = k) = (cache.lookup k).toList := by
  rw [filter_named (HashMap.iter_nodupKeys order cache), HashMap.dlookup_iter]
  intro e member
  obtain ⟨key, v⟩ := e
  exact named key v (HashMap.mem_iter.mp member)

theorem find_values {cache : HashMap String MetricValue} (named : Named cache) (order : RandomState)
    (k : String) :
    ((cache.iter order).map (·.2)).reverse.find? (·.name = k) = cache.lookup k := by
  rw [← List.head?_filter, List.filter_reverse, filter_values named]
  cases cache.lookup k <;> rfl

theorem named_foldl_insert (base : BTreeMap String) (values : List MetricValue)
    {cache : HashMap String MetricValue} (named : Named cache) :
    Named (values.foldl (fun map m => map.insert m.name (MetricStore.withLabels base m)) cache) := by
  induction values generalizing cache with
  | nil => exact named
  | cons v values ih =>
      rw [List.foldl_cons]
      exact ih (named.insert (MetricStore.withLabels base v))

theorem lookup_labelled {cache : HashMap String MetricValue} (named : Named cache) (values : RandomState)
    (base : BTreeMap String) (k : String) :
    (((cache.iter values).map (·.2)).foldl (fun map m => map.insert m.name (MetricStore.withLabels base m))
      (∅ : HashMap String MetricValue)).lookup k = (cache.lookup k).map (MetricStore.withLabels base) := by
  rw [HashMap.lookup_foldl_insert, find_values named, AList.lookup_empty, Option.or_none]

theorem publish_series {cache : HashMap String MetricValue} (named : Named cache)
    (order values : RandomState) (store : MetricStore) (collectorName : String)
    (globalLabels collectorLabels : BTreeMap String) (k : String) :
    ((((store.publish order collectorName ((cache.iter values).map (·.2)) globalLabels
      collectorLabels).metricsFor collectorName).filter (·.name = k)).map seriesOf) =
      ((cache.lookup k).map seriesOf).toList := by
  rw [MetricStore.publish, MetricStore.metricsFor, AList.lookup_insert, Option.getD_some, MetricStore.snapshot,
    filter_values (named_foldl_insert _ _ named_empty), lookup_labelled named]
  cases cache.lookup k with
  | none => rfl
  | some v => rfl

theorem lookup_carryForward (now : SystemTime) (order : RandomState)
    (prevCache localCache : HashMap String MetricValue) (k : String) :
    (carryForward now order prevCache localCache).lookup k =
      (localCache.lookup k).or ((prevCache.lookup k).map fun v => { v with updatedAt := now }) := by
  have folded := HashMap.lookup_foldl_orInsert
    (fun (_ : String) (v : MetricValue) => { v with updatedAt := now }) (prevCache.iter order) localCache k
  rw [HashMap.dlookup_iter] at folded
  exact folded

theorem lookup_putErrorCount (now : SystemTime) (cache : HashMap String MetricValue)
    (e : Σ _ : String, Nat) (k : String) :
    (putErrorCount now cache e).lookup k =
      if k = e.1 ++ "_errors" then
        some { (cache.lookup k).getD (errorCounter now e.1 e.2) with
          value := F64.ofU64 e.2, updatedAt := now }
      else cache.lookup k := by
  rw [putErrorCount, HashMap.lookup_modify]
  split_ifs with same
  · subst same
    simp [HashMap.lookup_orInsert]
  · rw [HashMap.lookup_orInsert, if_neg same]

theorem lookup_addErrorCounts {now : SystemTime} {order : RandomState}
    {errorCounts : HashMap String Nat} {cache : HashMap String MetricValue} {k : String}
    (apart : ∀ name ∈ errorCounts, k ≠ name ++ "_errors") :
    (addErrorCounts now order errorCounts cache).lookup k = cache.lookup k := by
  have others : ∀ e ∈ errorCounts.iter order, k ≠ e.1 ++ "_errors" := by
    intro e member
    obtain ⟨name, count⟩ := e
    exact apart name (AList.lookup_isSome.mp (by rw [HashMap.mem_iter.mp member]; rfl))
  unfold addErrorCounts
  revert others
  generalize errorCounts.iter order = entries
  intro others
  induction entries generalizing cache with
  | nil => rfl
  | cons e entries ih =>
      rw [List.foldl_cons, ih fun e' member => others e' (by simp [member]), lookup_putErrorCount,
        if_neg (others e (by simp))]

theorem errors_injective {name name' : String} (same : name ++ "_errors" = name' ++ "_errors") :
    name = name' := by
  have chars := congrArg String.toList same
  rw [String.toList_append, String.toList_append] at chars
  exact String.toList_inj.mp (List.append_cancel_right chars)

theorem lookup_addErrorCounts_errors (now : SystemTime) (order : RandomState)
    (errorCounts : HashMap String Nat) (cache : HashMap String MetricValue) (name : String) :
    (addErrorCounts now order errorCounts cache).lookup (name ++ "_errors") =
      match errorCounts.lookup name with
      | some count =>
          some { (cache.lookup (name ++ "_errors")).getD (errorCounter now name count) with
            value := F64.ofU64 count, updatedAt := now }
      | none => cache.lookup (name ++ "_errors") := by
  rw [← HashMap.dlookup_iter order errorCounts, addErrorCounts]
  have nodup := HashMap.iter_nodupKeys order errorCounts
  revert nodup
  generalize errorCounts.iter order = entries
  intro nodup
  induction entries generalizing cache with
  | nil => rfl
  | cons e entries ih =>
      obtain ⟨key, count⟩ := e
      obtain ⟨fresh, nodup⟩ := List.nodupKeys_cons.mp nodup
      rw [List.foldl_cons, ih _ nodup, lookup_putErrorCount]
      by_cases same : name = key
      · subst same
        rw [List.dlookup_eq_none.mpr fresh, List.dlookup_cons_eq, if_pos rfl]
      · rw [if_neg fun clash => same (errors_injective clash), List.dlookup_cons_ne _ _ same]

theorem mergeCaches_all {P : String → MetricValue → Prop}
    (stamped : ∀ k v value now, P k v → P k { v with value, updatedAt := now })
    (counter : ∀ name count now, P (name ++ "_errors") (errorCounter now name count))
    {env : Env} {prevCache localCache : HashMap String MetricValue} {errorCounts : HashMap String Nat}
    (previous : ∀ k v, prevCache.lookup k = some v → P k v)
    (fresh : ∀ k v, localCache.lookup k = some v → P k v) :
    ∀ k v, (mergeCaches env prevCache localCache errorCounts).lookup k = some v → P k v := by
  have carried : ∀ k v, (carryForward env.now env.orders.prevCache prevCache localCache).lookup k = some v →
      P k v := by
    intro k v found
    rw [lookup_carryForward] at found
    cases here : localCache.lookup k with
    | some w =>
        rw [here] at found
        cases found
        exact fresh k v here
    | none =>
        rw [here, Option.none_or] at found
        obtain ⟨w, there, rfl⟩ := Option.map_eq_some_iff.mp found
        exact stamped k w w.value env.now (previous k w there)
  unfold mergeCaches addErrorCounts
  revert carried
  generalize carryForward env.now env.orders.prevCache prevCache localCache = cache
  generalize errorCounts.iter env.orders.errorCounts = entries
  intro carried
  induction entries generalizing cache with
  | nil => exact carried
  | cons e entries ih =>
      refine ih _ ?_
      intro k v found
      rw [lookup_putErrorCount] at found
      split_ifs at found with same
      · cases found
        cases here : cache.lookup k with
        | none =>
            rw [same]
            exact stamped _ _ _ _ (counter e.1 e.2 env.now)
        | some w => exact stamped _ _ _ _ (carried k w here)
      · exact carried k v found

theorem named_mergeCaches {env : Env} {prevCache localCache : HashMap String MetricValue}
    {errorCounts : HashMap String Nat} (previous : Named prevCache) (fresh : Named localCache) :
    Named (mergeCaches env prevCache localCache errorCounts) :=
  mergeCaches_all (fun _ _ _ _ named => named) (fun _ _ _ => rfl) previous fresh

theorem series_mergeCaches {env : Env} {prevCache localCache : HashMap String MetricValue}
    {errorCounts : HashMap String Nat} {k : String}
    (apart : ∀ name ∈ errorCounts, k ≠ name ++ "_errors") :
    ((mergeCaches env prevCache localCache errorCounts).lookup k).map seriesOf =
      ((localCache.lookup k).map seriesOf).or ((prevCache.lookup k).map seriesOf) := by
  rw [mergeCaches, lookup_addErrorCounts apart, lookup_carryForward]
  cases localCache.lookup k with
  | some v => rfl
  | none =>
      rw [Option.none_or, Option.map_none, Option.none_or, Option.map_map]
      rfl

end BusExporter.Collector
