import Nephe.Plugins.Azure.Compute

/-!
# The filter store of the Azure compute service, over every run

The calls on one account's compute service are `AddResourceFilters`, `RemoveResourceFilters`,
`UpdateServiceConfig`, `DoResourceInventory` and `ResetInventoryCache`, in any order, each allowed
to fail. `Reachable` holds of the states every sequence of them reaches from
`newComputeServiceConfig`, with the log of what each call did; the two map `range`s are free to
visit the entries in any order.

Two facts are specified over the whole run. The store's law: `computeFilters` and `selectors` have
the same keys, and a key holds a selector exactly when it is that selector's `namespace/name` and
the selector was the last one added successfully under that name since its last removal. And
whether the installed filters match the credentials: they do after every call but a failing
`UpdateServiceConfig`, which has already swapped the credentials when it stops.

## Main definitions

* `Nephe.Azure.ComputeEvent`, `Nephe.Azure.Reachable` — the runs of the compute service
* `Nephe.Azure.ServiceStep` — one call on the compute service
* `Nephe.Azure.StoreInvariant` — the invariant of the store

## Main results

* `Nephe.Azure.Reachable.step_induction` — induction over runs, one call at a time
* `Nephe.Azure.reachable_storeInvariant` — every reachable state satisfies the invariant
* `Nephe.Azure.filterStore_keys` — the filter-store law
* `Nephe.Azure.updateServiceConfig_stale_filter` — a failing `UpdateServiceConfig` leaves a
  filter compiled for the old credentials
* `Nephe.Azure.reachable_filtersMatch_of_repaired` — when every failing `UpdateServiceConfig` was
  followed by one that returned nil (in particular when none failed), every filter is its
  selector compiled with the current credentials
-/

namespace Nephe.Azure

/-- What one call on the compute service did. -/
inductive ComputeEvent
  /-- `AddResourceFilters` stored the selector. -/
  | added (selector : CloudEntitySelector)
  /-- `AddResourceFilters` could not compile the selector. -/
  | addFailed (selector : CloudEntitySelector) (err : GoError)
  /-- `RemoveResourceFilters` of a name. -/
  | removed (selectorNamespacedName : NamespacedName)
  /-- `UpdateServiceConfig`, with the error it returned. -/
  | updated (err : Option GoError)
  /-- `DoResourceInventory`, with the error it returned. -/
  | polled (err : Option GoError)
  /-- `ResetInventoryCache`. -/
  | reset
  deriving DecidableEq, Repr

namespace ComputeEvent

/-- The event of an `AddResourceFilters` call with the error it returned. -/
def ofAdd (selector : CloudEntitySelector) : Option GoError → ComputeEvent
  | none => added selector
  | some err => addFailed selector err

/-- The event writes the entries of the name `n`: a successful add of a selector named `n`, or a
removal of `n`. -/
def WritesKey (n : NamespacedName) : ComputeEvent → Prop
  | added selector => selector.namespacedName = n
  | removed m => m = n
  | _ => False

/-- The event is a successful add of a selector named `n`. -/
def AddsName (n : NamespacedName) : ComputeEvent → Prop
  | added selector => selector.namespacedName = n
  | _ => False

theorem writesKey_iff {n : NamespacedName} {e : ComputeEvent} :
    e.WritesKey n ↔ e = removed n ∨ e.AddsName n := by
  cases e <;> simp [WritesKey, AddsName, eq_comm]

/-- The names of the event are slash-free, as Kubernetes guarantees. -/
def SlashFree : ComputeEvent → Prop
  | added selector | addFailed selector _ => selector.namespacedName.SlashFree
  | removed n => n.SlashFree
  | _ => True

instance : DecidablePred SlashFree := fun e =>
  match e with
  | added selector | addFailed selector _ =>
    inferInstanceAs (Decidable selector.namespacedName.SlashFree)
  | removed n => inferInstanceAs (Decidable n.SlashFree)
  | updated _ | polled _ | reset => inferInstanceAs (Decidable True)

@[simp] theorem slashFree_ofAdd {selector : CloudEntitySelector} {err : Option GoError} :
    (ofAdd selector err).SlashFree ↔ selector.namespacedName.SlashFree := by
  cases err <;> rfl

end ComputeEvent

variable (H : PluginHelpers)

/-- The states and logs of every run of the compute service from `newComputeServiceConfig`. -/
inductive Reachable : ComputeServiceConfig → List ComputeEvent → Prop
  | init (account : NamespacedName) (vnetAPIClient : AzureVirtualNetworksWrapper)
      (resourceGraphAPIClient : AzureResourceGraphWrapper) (credentials : AzureAccountConfig) :
      Reachable
        (newComputeServiceConfig account vnetAPIClient resourceGraphAPIClient credentials) []
  | add {computeCfg log} (selector : CloudEntitySelector) : Reachable computeCfg log →
      Reachable (addResourceFilters H computeCfg selector).1
        (log ++ [.ofAdd selector (addResourceFilters H computeCfg selector).2])
  | remove {computeCfg log} (selectorNamespacedName : NamespacedName) : Reachable computeCfg log →
      Reachable (removeResourceFilters computeCfg selectorNamespacedName)
        (log ++ [.removed selectorNamespacedName])
  | update {computeCfg log} (newConfig : ComputeServiceConfig) (order : List CloudEntitySelector)
      (visits : order.Perm computeCfg.selectors.values) : Reachable computeCfg log →
      Reachable (updateServiceConfig H computeCfg newConfig order).1
        (log ++ [.updated (updateServiceConfig H computeCfg newConfig order).2])
  | poll {computeCfg log} (order : List (List Query))
      (visits : order.Perm computeCfg.computeFilters.values) : Reachable computeCfg log →
      Reachable (performInventorySync H computeCfg order).1
        (log ++ [.polled (performInventorySync H computeCfg order).2])
  | reset {computeCfg log} : Reachable computeCfg log →
      Reachable (resetInventoryCache computeCfg) (log ++ [.reset])

/-- One call on the compute service: the state before it, what it did, and the state after it. -/
inductive ServiceStep : ComputeServiceConfig → ComputeEvent → ComputeServiceConfig → Prop
  | add (computeCfg : ComputeServiceConfig) (selector : CloudEntitySelector) :
      ServiceStep computeCfg (.ofAdd selector (addResourceFilters H computeCfg selector).2)
        (addResourceFilters H computeCfg selector).1
  | remove (computeCfg : ComputeServiceConfig) (selectorNamespacedName : NamespacedName) :
      ServiceStep computeCfg (.removed selectorNamespacedName)
        (removeResourceFilters computeCfg selectorNamespacedName)
  | update (computeCfg newConfig : ComputeServiceConfig) (order : List CloudEntitySelector)
      (visits : order.Perm computeCfg.selectors.values) :
      ServiceStep computeCfg (.updated (updateServiceConfig H computeCfg newConfig order).2)
        (updateServiceConfig H computeCfg newConfig order).1
  | poll (computeCfg : ComputeServiceConfig) (order : List (List Query))
      (visits : order.Perm computeCfg.computeFilters.values) :
      ServiceStep computeCfg (.polled (performInventorySync H computeCfg order).2)
        (performInventorySync H computeCfg order).1
  | reset (computeCfg : ComputeServiceConfig) :
      ServiceStep computeCfg .reset (resetInventoryCache computeCfg)

/-- The invariant of the store: the two maps have the same keys, and a key holds a selector
exactly when it is the selector's `namespace/name` and the selector was the last one added under
that name since the name's last removal. -/
def StoreInvariant (computeCfg : ComputeServiceConfig) (log : List ComputeEvent) : Prop :=
  (∀ k, k ∈ computeCfg.computeFilters ↔ k ∈ computeCfg.selectors) ∧
    ∀ k selector, computeCfg.selectors.lookup k = some selector ↔
      k = selector.namespacedName.string ∧
        SinceLast log (.added selector) (ComputeEvent.WritesKey selector.namespacedName)

/-! ## What one call does to the store -/

variable {H}

/-- A run followed by one more call is a run. -/
theorem Reachable.serviceStep {computeCfg computeCfg' : ComputeServiceConfig}
    {log : List ComputeEvent} {e : ComputeEvent} (h : Reachable H computeCfg log)
    (s : ServiceStep H computeCfg e computeCfg') : Reachable H computeCfg' (log ++ [e]) := by
  cases s with
  | add selector => exact .add selector h
  | remove n => exact .remove n h
  | update newConfig order visits => exact .update newConfig order visits h
  | poll order visits => exact .poll order visits h
  | reset => exact .reset h

/-- Induction over runs, one call at a time: what holds of every fresh compute service and is kept
by every call holds of every run. -/
@[elab_as_elim]
theorem Reachable.step_induction {motive : ComputeServiceConfig → List ComputeEvent → Prop}
    (init : ∀ account vnetAPIClient resourceGraphAPIClient credentials,
      motive (newComputeServiceConfig account vnetAPIClient resourceGraphAPIClient credentials) [])
    (step : ∀ {computeCfg computeCfg' log e}, motive computeCfg log →
      ServiceStep H computeCfg e computeCfg' → motive computeCfg' (log ++ [e]))
    {computeCfg : ComputeServiceConfig} {log : List ComputeEvent} (h : Reachable H computeCfg log) :
    motive computeCfg log := by
  induction h with
  | init => exact init _ _ _ _
  | add selector _ ih => exact step ih (.add _ selector)
  | remove n _ ih => exact step ih (.remove _ n)
  | update newConfig order visits _ ih => exact step ih (.update _ newConfig order visits)
  | poll order visits _ ih => exact step ih (.poll _ order visits)
  | reset _ ih => exact step ih (.reset _)

/-- No call changes the account a compute service belongs to. -/
theorem ServiceStep.account_eq {computeCfg computeCfg' : ComputeServiceConfig} {e : ComputeEvent}
    (s : ServiceStep H computeCfg e computeCfg') : computeCfg'.account = computeCfg.account := by
  cases s with
  | poll order =>
    obtain ⟨cache, hpoll⟩ := performInventorySync_eq H computeCfg order
    rw [hpoll]
  | _ => simp [removeResourceFilters, resetInventoryCache]

theorem StoreInvariant.sitsUnderOwnKey {computeCfg : ComputeServiceConfig}
    {log : List ComputeEvent} (inv : StoreInvariant computeCfg log) {selector : CloudEntitySelector}
    (h : selector ∈ computeCfg.selectors.values) : SitsUnderOwnKey computeCfg selector := by
  obtain ⟨k, hk⟩ := GoMap.exists_lookup_of_mem_values h
  rw [SitsUnderOwnKey, ← ((inv.2 k selector).1 hk).1, hk]

/-- An event that neither adds nor writes a key leaves the invariant's characterisation as it
was. -/
theorem StoreInvariant.append_other {computeCfg : ComputeServiceConfig} {log : List ComputeEvent}
    (inv : StoreInvariant computeCfg log) {x : ComputeEvent}
    (hx : ∀ selector, x ≠ .added selector ∧ ¬ x.WritesKey selector.namespacedName) :
    StoreInvariant computeCfg (log ++ [x]) :=
  ⟨inv.1, fun k selector => by
    rw [inv.2, sinceLast_append_other (Ne.symm (hx selector).1) (hx selector).2]⟩

/-- `AddResourceFilters` keeps the invariant. -/
theorem storeInvariant_add {computeCfg : ComputeServiceConfig} {log : List ComputeEvent}
    (inv : StoreInvariant computeCfg log) (free : ∀ e ∈ log, e.SlashFree)
    (selector : CloudEntitySelector) (freeSelector : selector.namespacedName.SlashFree) :
    StoreInvariant (addResourceFilters H computeCfg selector).1
      (log ++ [.ofAdd selector (addResourceFilters H computeCfg selector).2]) := by
  rcases h : compileSelector H selector computeCfg.credentials with _ | filters
  · rw [addResourceFilters_of_none H h]
    exact inv.append_other fun _ => by simp [ComputeEvent.ofAdd, ComputeEvent.WritesKey]
  rw [addResourceFilters_of_some H h]
  refine ⟨fun k => by simp [inv.1 k], fun k sel => ?_⟩
  by_cases hk : k = selector.namespacedName.string
  · subst hk
    simp only [AList.lookup_insert, Option.some.injEq, ComputeEvent.ofAdd,
      sinceLast_append_singleton, ComputeEvent.added.injEq, ComputeEvent.WritesKey]
    by_cases hs : selector = sel
    · subst hs; simp
    · simp only [hs, false_iff, Ne.symm hs, false_or, not_and]
      intro hkey since hne
      exact hne ((NamespacedName.string_inj freeSelector (free _ since.mem)).1 hkey)
  · rw [AList.lookup_insert_ne hk, inv.2]
    refine and_congr_right fun hk' => ?_
    have hname : selector.namespacedName ≠ sel.namespacedName := fun h => hk (by rw [hk', h])
    exact (sinceLast_append_other
      (fun h => hname (congrArg _ (ComputeEvent.added.inj h).symm)) hname).symm

/-- `RemoveResourceFilters` keeps the invariant. -/
theorem storeInvariant_remove {computeCfg : ComputeServiceConfig} {log : List ComputeEvent}
    (inv : StoreInvariant computeCfg log) (free : ∀ e ∈ log, e.SlashFree)
    (n : NamespacedName) (freeName : n.SlashFree) :
    StoreInvariant (removeResourceFilters computeCfg n) (log ++ [.removed n]) := by
  refine ⟨fun k => by simp [removeResourceFilters, inv.1 k], fun k sel => ?_⟩
  by_cases hk : k = n.string
  · subst hk
    simp only [removeResourceFilters, AList.lookup_erase, reduceCtorEq, false_iff, not_and,
      sinceLast_append_singleton, false_or, ComputeEvent.WritesKey, not_not]
    intro hkey since
    exact (NamespacedName.string_inj freeName (free _ since.mem)).1 hkey
  · simp only [removeResourceFilters, AList.lookup_erase_ne hk, inv.2]
    refine and_congr_right fun hk' => (sinceLast_append_other (by simp) ?_).symm
    exact fun h : n = sel.namespacedName => hk (by rw [hk', h])

/-- `UpdateServiceConfig` keeps the invariant, whether or not it fails. -/
theorem storeInvariant_update {computeCfg : ComputeServiceConfig} {log : List ComputeEvent}
    (inv : StoreInvariant computeCfg log) (newConfig : ComputeServiceConfig)
    {order : List CloudEntitySelector} (visits : order.Perm computeCfg.selectors.values) :
    StoreInvariant (updateServiceConfig H computeCfg newConfig order).1
      (log ++ [.updated (updateServiceConfig H computeCfg newConfig order).2]) := by
  have own : ∀ sel ∈ order, SitsUnderOwnKey computeCfg sel :=
    fun sel hsel => inv.sitsUnderOwnKey (visits.subset hsel)
  have same := updateServiceConfig_selectors H computeCfg newConfig own
  have keys : ∀ k, k ∈ (updateServiceConfig H computeCfg newConfig order).1.selectors ↔
      k ∈ computeCfg.computeFilters := fun k => by
    rw [← AList.lookup_isSome, same, AList.lookup_isSome, inv.1]
  refine StoreInvariant.append_other ⟨fun k => ?_, fun k sel => by rw [same, inv.2]⟩
    fun _ => by simp [ComputeEvent.WritesKey]
  rw [keys]
  constructor
  · intro hk
    rcases reAddSelectors_mem_filters H order _ k hk with hk | ⟨sel, hsel, rfl⟩
    · exact hk
    · exact (inv.1 _).2 (AList.lookup_isSome.1 (Option.isSome_iff_exists.2 ⟨sel, own sel hsel⟩))
  · exact mem_updateServiceConfig_filters H computeCfg newConfig order

/-- `DoResourceInventory` keeps the invariant. -/
theorem storeInvariant_poll {computeCfg : ComputeServiceConfig} {log : List ComputeEvent}
    (inv : StoreInvariant computeCfg log) (order : List (List Query)) :
    StoreInvariant (performInventorySync H computeCfg order).1
      (log ++ [.polled (performInventorySync H computeCfg order).2]) := by
  obtain ⟨cache, hpoll⟩ := performInventorySync_eq H computeCfg order
  rw [hpoll]
  exact inv.append_other fun _ => by simp [ComputeEvent.WritesKey]

/-- Every state a run reaches, over a log of slash-free names, satisfies the store invariant. -/
theorem reachable_storeInvariant {computeCfg : ComputeServiceConfig} {log : List ComputeEvent}
    (h : Reachable H computeCfg log) (free : ∀ e ∈ log, e.SlashFree) :
    StoreInvariant computeCfg log := by
  induction h with
  | init => exact ⟨by simp [newComputeServiceConfig], by simp [newComputeServiceConfig]⟩
  | add selector _ ih =>
    rw [List.forall_mem_append, List.forall_mem_singleton, ComputeEvent.slashFree_ofAdd] at free
    exact storeInvariant_add (ih free.1) free.1 selector free.2
  | remove n _ ih =>
    rw [List.forall_mem_append, List.forall_mem_singleton] at free
    exact storeInvariant_remove (ih free.1) free.1 n free.2
  | update newConfig order visits _ ih =>
    exact storeInvariant_update (ih (List.forall_mem_append.1 free).1) newConfig visits
  | poll order _ _ ih => exact storeInvariant_poll (ih (List.forall_mem_append.1 free).1) order
  | reset _ ih =>
    exact (ih (List.forall_mem_append.1 free).1).append_other fun _ => by
      simp [ComputeEvent.WritesKey]

/-! ## The filter-store law -/

section Law

variable (H)

/-- The filter-store law of a state reached with the log `log`. -/
structure FilterStoreLaw (computeCfg : ComputeServiceConfig) (log : List ComputeEvent) : Prop where
  /-- The filters and the selectors have the same keys. -/
  sameKeys : ∀ k, k ∈ computeCfg.computeFilters ↔ k ∈ computeCfg.selectors
  /-- The keys are the `namespace/name` of the selectors added successfully since their name was
  last removed. -/
  keys : ∀ k, k ∈ computeCfg.selectors ↔ ∃ selector : CloudEntitySelector,
    k = selector.namespacedName.string ∧
      SinceLast log (.added selector) (· = .removed selector.namespacedName)
  /-- A key holds the last selector added successfully under it. -/
  lookup : ∀ k selector, computeCfg.selectors.lookup k = some selector ↔
    k = selector.namespacedName.string ∧
      SinceLast log (.added selector) (ComputeEvent.WritesKey selector.namespacedName)
  /-- An add of one selector leaves the entries of every other key as they were. -/
  addFrame : ∀ selector k, k ≠ selector.namespacedName.string →
    (addResourceFilters H computeCfg selector).1.computeFilters.lookup k =
        computeCfg.computeFilters.lookup k ∧
      (addResourceFilters H computeCfg selector).1.selectors.lookup k =
        computeCfg.selectors.lookup k
  /-- A removal of one name leaves the entries of every other key as they were. -/
  removeFrame : ∀ n k, k ≠ NamespacedName.string n →
    (removeResourceFilters computeCfg n).computeFilters.lookup k =
        computeCfg.computeFilters.lookup k ∧
      (removeResourceFilters computeCfg n).selectors.lookup k = computeCfg.selectors.lookup k

end Law

/-- Under the invariant, the keys are those of the names added since their last removal: the
last add of such a name sits under it. -/
theorem StoreInvariant.mem_selectors {computeCfg : ComputeServiceConfig} {log : List ComputeEvent}
    (inv : StoreInvariant computeCfg log) (k : GoString) :
    k ∈ computeCfg.selectors ↔ ∃ selector : CloudEntitySelector,
      k = selector.namespacedName.string ∧
        SinceLast log (.added selector) (· = .removed selector.namespacedName) := by
  constructor
  · intro hk
    obtain ⟨selector, hsel⟩ := Option.isSome_iff_exists.1 (AList.lookup_isSome.2 hk)
    obtain ⟨rfl, since⟩ := (inv.2 k selector).1 hsel
    exact ⟨selector, rfl, since.mono fun x hx => by subst hx; rfl⟩
  · rintro ⟨selector, rfl, since⟩
    obtain ⟨e, hadd, since'⟩ := since.last_of
      (show ComputeEvent.AddsName selector.namespacedName (.added selector) from rfl)
    cases e with
    | added last =>
      have hname : last.namespacedName = selector.namespacedName := hadd
      have stop : ∀ x, ComputeEvent.WritesKey last.namespacedName x →
          x = .removed selector.namespacedName ∨ ComputeEvent.AddsName selector.namespacedName x :=
        fun x hx => hname ▸ ComputeEvent.writesKey_iff.1 hx
      rw [← hname]
      exact AList.lookup_isSome.1 (Option.isSome_iff_exists.2
        ⟨last, (inv.2 _ last).2 ⟨rfl, since'.mono stop⟩⟩)
    | _ => exact hadd.elim

/-- The store invariant gives the filter-store law. -/
theorem StoreInvariant.filterStoreLaw {computeCfg : ComputeServiceConfig} {log : List ComputeEvent}
    (inv : StoreInvariant computeCfg log) : FilterStoreLaw H computeCfg log :=
  ⟨inv.1, inv.mem_selectors, inv.2, fun selector _ hk => addResourceFilters_frame H _ selector hk,
    fun n _ hk => removeResourceFilters_frame _ n hk⟩

/-- **The filter-store law** holds in every state a run reaches over slash-free names. -/
theorem filterStore_keys {computeCfg : ComputeServiceConfig} {log : List ComputeEvent}
    (h : Reachable H computeCfg log) (free : ∀ e ∈ log, e.SlashFree) :
    FilterStoreLaw H computeCfg log :=
  (reachable_storeInvariant h free).filterStoreLaw

/-- Query builders that compile selectors for the region `eastus` only, with stats that record
every poll. -/
def eastusHelpers : PluginHelpers where
  convertSelectorToComputeQuery _ _ _ locations :=
    if locations = ["eastus".toList] then some ["vm-query".toList] else none
  getVMsBySubscriptionIDsAndTenantIDsAndLocationsMatchQuery _ _ _ := .ok "all-vms".toList
  pollStats := .recordEveryPoll

/-- The credentials of an account in `region`. -/
def regionCredentials (region : String) : AzureAccountConfig :=
  ⟨⟨"sub01".toList, "client01".toList, "tenant01".toList, "key01".toList⟩, region.toList⟩

/-- A freshly created compute service of the account `default/account01` in `eastus`. -/
def eastusAccount : ComputeServiceConfig :=
  newComputeServiceConfig ⟨"default".toList, "account01".toList⟩ ⟨.ok []⟩ ⟨fun _ _ => .ok []⟩
    (regionCredentials "eastus")

/-- The selector `default/selector01`. -/
def testSelector : CloudEntitySelector :=
  ⟨"default".toList, "selector01".toList, []⟩

/-- `eastusAccount` after `AddResourceFilters testSelector`. -/
def selectorAdded : ComputeServiceConfig :=
  (addResourceFilters eastusHelpers eastusAccount testSelector).1

theorem filterStore_keys_selectorAdded :
    Reachable eastusHelpers selectorAdded [.added testSelector] ∧
      (∀ e ∈ [ComputeEvent.added testSelector], e.SlashFree) ∧
      FilterStoreLaw eastusHelpers selectorAdded [.added testSelector] :=
  have run : Reachable eastusHelpers selectorAdded [.added testSelector] :=
    .add testSelector (.init _ _ _ _)
  have free : ∀ e ∈ [ComputeEvent.added testSelector], e.SlashFree := by decide
  ⟨run, free, filterStore_keys run free⟩

/-! ## Filters and credentials -/

variable (H) in
/-- Every installed filter is its selector compiled with the credentials the account holds. -/
def FiltersMatch (computeCfg : ComputeServiceConfig) : Prop :=
  ∀ k selector, computeCfg.selectors.lookup k = some selector →
    computeCfg.computeFilters.lookup k = compileSelector H selector computeCfg.credentials

theorem filtersMatch_add {computeCfg : ComputeServiceConfig} (m : FiltersMatch H computeCfg)
    (selector : CloudEntitySelector) :
    FiltersMatch H (addResourceFilters H computeCfg selector).1 := by
  rcases h : compileSelector H selector computeCfg.credentials with _ | filters
  · rw [addResourceFilters_of_none H h]; exact m
  rw [addResourceFilters_of_some H h]
  intro k sel hk
  by_cases hkey : k = selector.namespacedName.string
  · subst hkey
    obtain rfl : selector = sel := Option.some_injective _ (by simpa using hk)
    simpa using h.symm
  · simp only [AList.lookup_insert_ne hkey] at hk ⊢
    exact m k sel hk

theorem filtersMatch_remove {computeCfg : ComputeServiceConfig} (m : FiltersMatch H computeCfg)
    (n : NamespacedName) : FiltersMatch H (removeResourceFilters computeCfg n) := by
  intro k sel hk
  by_cases hkey : k = n.string
  · subst hkey
    simp [removeResourceFilters] at hk
  · rw [(removeResourceFilters_frame computeCfg n hkey).2] at hk
    rw [(removeResourceFilters_frame computeCfg n hkey).1]
    exact m k sel hk

/-- An `UpdateServiceConfig` that returns nil recompiles every selector with the new
credentials. -/
theorem filtersMatch_update {computeCfg : ComputeServiceConfig} {log : List ComputeEvent}
    (inv : StoreInvariant computeCfg log) (newConfig : ComputeServiceConfig)
    {order : List CloudEntitySelector} (visits : order.Perm computeCfg.selectors.values)
    (ok : (updateServiceConfig H computeCfg newConfig order).2 = none) :
    FiltersMatch H (updateServiceConfig H computeCfg newConfig order).1 := by
  have own : ∀ sel ∈ order, SitsUnderOwnKey computeCfg sel :=
    fun sel hsel => inv.sitsUnderOwnKey (visits.subset hsel)
  intro k sel hk
  rw [updateServiceConfig_selectors H computeCfg newConfig own] at hk
  obtain ⟨rfl, -⟩ := (inv.2 k sel).1 hk
  rw [updateServiceConfig_compiled H computeCfg newConfig own ok sel
    (visits.symm.subset (GoMap.mem_values_of_lookup hk)), updateServiceConfig_credentials]

/-- The configuration an `UpdateServiceConfig` of `eastusAccount` receives: the account moved to
`westus`. -/
def westusConfig : ComputeServiceConfig :=
  newComputeServiceConfig eastusAccount.account ⟨.ok []⟩ ⟨fun _ _ => .ok []⟩
    (regionCredentials "westus")

/-- `selectorAdded` after `UpdateServiceConfig westusConfig`, which fails on `testSelector`. -/
def selectorStale : ComputeServiceConfig :=
  (updateServiceConfig eastusHelpers selectorAdded westusConfig [testSelector]).1

/-- With builders that cannot compile the selector for `westus`, a run of two calls ends with the
`westus` credentials and the filter compiled for `eastus`: `UpdateServiceConfig` swapped the
credentials, then failed to re-add the selector. -/
theorem updateServiceConfig_stale_filter :
    Reachable eastusHelpers selectorStale
        [.added testSelector, .updated (some "error creating resource query filters".toList)] ∧
      selectorStale.credentials = regionCredentials "westus" ∧
      selectorStale.computeFilters.lookup testSelector.namespacedName.string =
        compileSelector eastusHelpers testSelector (regionCredentials "eastus") ∧
      ¬ FiltersMatch eastusHelpers selectorStale :=
  have run : Reachable eastusHelpers selectorAdded [.added testSelector] :=
    .add testSelector (.init _ _ _ _)
  ⟨.update westusConfig [testSelector] (by exact List.Perm.refl _) run, rfl, by decide,
    fun m => absurd (m testSelector.namespacedName.string testSelector (by decide)) (by decide)⟩

/-- Every failing `UpdateServiceConfig` of the log was followed by one that returned nil. -/
def UpdatesRepaired (log : List ComputeEvent) : Prop :=
  ∀ pre err post, log = pre ++ ComputeEvent.updated (some err) :: post →
    ComputeEvent.updated none ∈ post

theorem UpdatesRepaired.of_append {log : List ComputeEvent} {x : ComputeEvent}
    (h : UpdatesRepaired (log ++ [x])) (hx : x ≠ .updated none) : UpdatesRepaired log :=
  fun pre err post hlog => by
    simpa [Ne.symm hx] using h pre err (post ++ [x]) (by simp [hlog])

theorem ofAdd_ne_updated (selector : CloudEntitySelector) (err e : Option GoError) :
    ComputeEvent.ofAdd selector err ≠ .updated e := by
  cases err <;> simp [ComputeEvent.ofAdd]

/-- **A successful `UpdateServiceConfig` repairs the filters.** In every state a run reaches over
slash-free names, if each failing `UpdateServiceConfig` was followed by one that returned nil,
every filter is its selector compiled with the current credentials. -/
theorem reachable_filtersMatch_of_repaired {computeCfg : ComputeServiceConfig}
    {log : List ComputeEvent} (h : Reachable H computeCfg log) (free : ∀ e ∈ log, e.SlashFree)
    (repaired : UpdatesRepaired log) : FiltersMatch H computeCfg := by
  induction h with
  | init => intro k sel hk; simp [newComputeServiceConfig] at hk
  | add selector _ ih =>
    exact filtersMatch_add (ih (List.forall_mem_append.1 free).1
      (repaired.of_append (ofAdd_ne_updated _ _ _))) selector
  | remove n _ ih =>
    exact filtersMatch_remove (ih (List.forall_mem_append.1 free).1
      (repaired.of_append (by simp))) n
  | update newConfig order visits run _ =>
    rcases hupd : (updateServiceConfig H _ newConfig order).2 with _ | err
    · exact filtersMatch_update (reachable_storeInvariant run (List.forall_mem_append.1 free).1)
        newConfig visits hupd
    · rw [hupd] at repaired
      exact absurd (repaired _ err [] rfl) (List.not_mem_nil _)
  | poll order _ _ ih =>
    obtain ⟨cache, hpoll⟩ := performInventorySync_eq H _ order
    rw [hpoll]
    exact ih (List.forall_mem_append.1 free).1 (repaired.of_append (by simp))
  | reset _ ih => exact ih (List.forall_mem_append.1 free).1 (repaired.of_append (by simp))

/-- `selectorStale` after a second `UpdateServiceConfig`, which moves the account back to
`eastus`. -/
def selectorRepaired : ComputeServiceConfig :=
  (updateServiceConfig eastusHelpers selectorStale eastusAccount [testSelector]).1

/-- The failed move to `westus`, then the move back: the second `UpdateServiceConfig` recompiles
the filter the first one left stale. -/
example :
    Reachable eastusHelpers selectorRepaired [.added testSelector,
        .updated (some "error creating resource query filters".toList), .updated none] ∧
      (∀ e ∈ [ComputeEvent.added testSelector,
        .updated (some "error creating resource query filters".toList), .updated none],
          e.SlashFree) ∧
      UpdatesRepaired [.added testSelector,
        .updated (some "error creating resource query filters".toList), .updated none] ∧
      FiltersMatch eastusHelpers selectorRepaired :=
  have run : Reachable eastusHelpers selectorRepaired [.added testSelector,
      .updated (some "error creating resource query filters".toList), .updated none] :=
    .update eastusAccount [testSelector] (by exact List.Perm.refl _)
      (.update westusConfig [testSelector] (by exact List.Perm.refl _)
        (.add testSelector (.init _ _ _ _)))
  have free : ∀ e ∈ [ComputeEvent.added testSelector,
      .updated (some "error creating resource query filters".toList), .updated none],
        e.SlashFree := by decide
  have repaired : UpdatesRepaired [.added testSelector,
      .updated (some "error creating resource query filters".toList), .updated none] := by
    intro pre err post h
    rcases pre with _ | ⟨_, _ | ⟨_, _ | ⟨_, _⟩⟩⟩ <;> simp at h
    obtain ⟨-, -, rfl⟩ := h
    exact List.mem_singleton_self _
  ⟨run, free, repaired, reachable_filtersMatch_of_repaired run free repaired⟩

end Nephe.Azure