import Nephe.Plugins.Azure.FilterStore

/-!
# The Azure inventory poll and the VPC read side

`DoResourceInventory` lists the vnets, asks `getComputeResourceFilters` for the queries to run,
runs them, and publishes one snapshot. This file says what a poll publishes and when.

* Failures. A failing vnet listing or VM query returns its error with the snapshot unchanged, and
  the account config records the error in the poll stats. When the match-all query of an empty
  filter list cannot be built, `getComputeResourceFilters` logs the error and answers "no
  filters"; `getVirtualMachines` then answers no VMs and no error, and the poll publishes a
  snapshot without VMs and returns nil.
* The union law. When the match-all query can be built and every query succeeds, the rows of a
  poll are those of the installed filter lists taken one at a time, whatever order `range`
  visits them in, provided every filter selects among the match-all rows.
* The managed flag. `GetVpcInventory` flags a vnet managed when its lowercased ID is a vnet ID
  of the snapshot; the poll stores the rows' vnet IDs as the cloud spells them.
* The peerings. `buildMapVpcPeers` groups the peerings of the listed vnets by lowercased vnet ID,
  in order.
* The reads. The cached VMs hold one row per lowercased ID, the last one read, so a VM two filters
  select is cached once; the managed vnets are keyed the same way; `getVnetPeers` returns what
  `buildMapVpcPeers` grouped. A poll never reads the snapshot it replaces or the stats, so a
  reset before it changes nothing it answers.
* Over runs. A compute service has a snapshot exactly when a poll returned nil with no
  `ResetInventoryCache` after it, and every snapshot it has is well formed: each row under its
  lowercased ID, the vnet ID of each row recorded, the peerings those of the listed vnets.

## Main definitions

* `Nephe.Azure.PollFails` — the failures of a poll
* `Nephe.Azure.selectedRows` — the rows one filter list selects
* `Nephe.Azure.PublishesVM`, `Nephe.Azure.PublishesVnet` — the IDs a state's snapshot publishes
* `Nephe.Azure.vnetPeerings` — the peerings of one vnet
* `Nephe.Azure.lastRow` — the row a poll keeps under one lowercased ID
* `Nephe.Azure.SnapshotWellFormed` — what every snapshot of a poll satisfies

## Main results

* `Nephe.Azure.performInventorySync_fails` — a poll fails exactly in the ways `PollFails` lists,
  and then keeps the snapshot and records its error in the stats
* `Nephe.Azure.doResourceInventory_error` — a poll that returns an error leaves the state as it
  was
* `Nephe.Azure.doResourceInventory_of_matchAll_error` — a poll whose match-all query cannot be
  built publishes a snapshot without VMs and returns nil
* `Nephe.Azure.doResourceInventory_union` — the union law, when the match-all query is built
* `Nephe.Azure.doResourceInventory_resourcesCache` — a poll reads neither the snapshot it replaces
  nor the stats
* `Nephe.Azure.performInventorySync_resetInventoryCache` — a reset does not change the next poll
* `Nephe.Azure.getCachedVirtualMachines_of_poll` — the cached VMs are the last row read for each
  lowercased ID
* `Nephe.Azure.getManagedVnets_getVnetPeers_of_poll` — what the vnet reads return after a poll
* `Nephe.Azure.getVpcInventory_managed` — after a poll, a vnet of the region is flagged managed
  exactly when some row's vnet ID is its lowercased ID
* `Nephe.Azure.buildMapVpcPeers_lookup` — the peerings map groups the peerings by lowercased vnet
  ID
* `Nephe.Azure.ServiceStep.resourcesCache` — what one call does to the snapshot
* `Nephe.Azure.reachable_snapshot` — the snapshot law of one compute service
-/

namespace Nephe.Azure

variable (H : PluginHelpers)

/-! ## The loops of the poll -/

section Loops

variable (credentials : AzureAccountConfig)

/-- Without an empty filter list, the loop of `getComputeResourceFilters` gathers every filter in
`range` order. -/
theorem rangeComputeFilters_of_not_mem_nil (allFilters : List Query) {order : List (List Query)}
    (h : [] ∉ order) :
    rangeComputeFilters H credentials allFilters order = (allFilters ++ order.flatten, true) := by
  induction order generalizing allFilters with
  | nil => simp [rangeComputeFilters]
  | cons filters rest ih =>
    have hne : filters ≠ [] := fun he => h (he ▸ List.mem_cons_self _ _)
    simp [rangeComputeFilters, hne, ih _ fun hm => h (List.mem_cons_of_mem _ hm)]

/-- An empty filter list ends the loop with the match-all query alone, or with "no filters" when
that query cannot be built. -/
theorem rangeComputeFilters_of_mem_nil (allFilters : List Query) {order : List (List Query)}
    (h : [] ∈ order) :
    rangeComputeFilters H credentials allFilters order =
      match H.getVMsBySubscriptionIDsAndTenantIDsAndLocationsMatchQuery
          [credentials.SubscriptionID] [credentials.TenantID] [credentials.region] with
      | .error _ => ([], false)
      | .ok queryStr => ([queryStr], true) := by
  induction order generalizing allFilters with
  | nil => exact absurd h (List.not_mem_nil _)
  | cons filters rest ih =>
    by_cases hne : filters = []
    · subst hne; rfl
    · simp only [rangeComputeFilters, List.isEmpty_iff, hne, if_false]
      exact ih _ (List.mem_of_ne_of_mem (Ne.symm hne) h)

end Loops

section Query

variable (client : AzureResourceGraphWrapper) (subscriptions : List GoString)

/-- The VM loop over queries that all succeed returns their rows in order. -/
theorem queryVirtualMachines_ok (rows : Query → List VirtualMachineTable) {filters : List Query}
    (hrows : ∀ q ∈ filters, client.getVirtualMachineTable q subscriptions = .ok (rows q))
    (virtualMachines : List VirtualMachineTable) :
    queryVirtualMachines client subscriptions virtualMachines filters =
      .ok (virtualMachines ++ filters.flatMap rows) := by
  induction filters generalizing virtualMachines with
  | nil => simp [queryVirtualMachines]
  | cons q rest ih =>
    simp only [queryVirtualMachines, hrows q (List.mem_cons_self _ _),
      ih (fun q' hq' => hrows q' (List.mem_cons_of_mem _ hq')), List.flatMap_cons,
      List.append_assoc]

/-- One failing query fails the VM loop. -/
theorem queryVirtualMachines_error {filters : List Query} {q : Query} (hq : q ∈ filters)
    {err : GoError} (herr : client.getVirtualMachineTable q subscriptions = .error err)
    (virtualMachines : List VirtualMachineTable) :
    ∃ e, queryVirtualMachines client subscriptions virtualMachines filters = .error e := by
  induction filters generalizing virtualMachines with
  | nil => exact absurd hq (List.not_mem_nil _)
  | cons q' rest ih =>
    simp only [queryVirtualMachines]
    rcases h : client.getVirtualMachineTable q' subscriptions with e | rows
    · exact ⟨e, rfl⟩
    · have hrest : q ∈ rest := by
        rcases List.mem_cons.1 hq with rfl | hrest
        · rw [herr] at h; cases h
        · exact hrest
      exact ih hrest _

/-- The VM loop fails only at a query that fails. -/
theorem exists_error_of_queryVirtualMachines {filters : List Query}
    {virtualMachines : List VirtualMachineTable} {e : GoError}
    (h : queryVirtualMachines client subscriptions virtualMachines filters = .error e) :
    ∃ q ∈ filters, ∃ err, client.getVirtualMachineTable q subscriptions = .error err := by
  induction filters generalizing virtualMachines with
  | nil => simp [queryVirtualMachines] at h
  | cons q rest ih =>
    rcases hq : client.getVirtualMachineTable q subscriptions with err | rows
    · exact ⟨q, List.mem_cons_self _ _, err, hq⟩
    · simp only [queryVirtualMachines, hq] at h
      obtain ⟨q', hq', err, h'⟩ := ih h
      exact ⟨q', List.mem_cons_of_mem _ hq', err, h'⟩

end Query

/-- The row index of a poll: a key is the lowercased ID of a row, a vnet ID is the vnet ID of a
row as the cloud spells it. -/
theorem mem_indexVirtualMachines (rows : List VirtualMachineTable)
    (vmIDToInfoMap : GoMap GoString VirtualMachineTable) (vnetIDs : GoMap GoString Unit)
    (k : GoString) :
    (k ∈ (indexVirtualMachines rows vmIDToInfoMap vnetIDs).1 ↔
        k ∈ vmIDToInfoMap ∨ ∃ row ∈ rows, k = Strings.toLower row.ID) ∧
      (k ∈ (indexVirtualMachines rows vmIDToInfoMap vnetIDs).2 ↔
        k ∈ vnetIDs ∨ ∃ row ∈ rows, k = row.VnetID) := by
  induction rows generalizing vmIDToInfoMap vnetIDs with
  | nil => simp [indexVirtualMachines]
  | cons row rest ih =>
    simp [indexVirtualMachines, ih, AList.mem_insert, or_assoc, or_left_comm]

/-- The row map of a poll: the rows inserted in order under their lowercased IDs. -/
theorem indexVirtualMachines_fst (rows : List VirtualMachineTable)
    (vmIDToInfoMap : GoMap GoString VirtualMachineTable) (vnetIDs : GoMap GoString Unit) :
    (indexVirtualMachines rows vmIDToInfoMap vnetIDs).1 =
      rows.foldl (fun m vm => m.insert (Strings.toLower vm.ID) vm) vmIDToInfoMap := by
  induction rows generalizing vmIDToInfoMap vnetIDs with
  | nil => rfl
  | cons row rest ih => exact ih _ _

/-! ## What a poll does -/

/-- The failures of a poll: the vnet listing fails; or no filter list is empty and the query of an
installed filter fails; or an empty filter list is installed, and the match-all query is built and
fails. -/
def PollFails (computeCfg : ComputeServiceConfig) (order : List (List Query)) : Prop :=
  (∃ err, computeCfg.vnetAPIClient.listAllComplete = .error err) ∨
    ([] ∉ order ∧ ∃ q ∈ order.flatten, ∃ err,
      computeCfg.resourceGraphAPIClient.getVirtualMachineTable q
        [computeCfg.credentials.SubscriptionID] = .error err) ∨
    ([] ∈ order ∧ ∃ allQuery, H.getVMsBySubscriptionIDsAndTenantIDsAndLocationsMatchQuery
        [computeCfg.credentials.SubscriptionID] [computeCfg.credentials.TenantID]
        [computeCfg.credentials.region] = .ok allQuery ∧ ∃ err,
      computeCfg.resourceGraphAPIClient.getVirtualMachineTable allQuery
        [computeCfg.credentials.SubscriptionID] = .error err)

section Poll

variable {H} {computeCfg : ComputeServiceConfig} {order : List (List Query)}

/-- A poll that lists the vnets and gets the VM rows publishes their snapshot and returns nil. -/
theorem doResourceInventory_of_ok {vnets : List VirtualNetwork}
    {virtualMachines : List VirtualMachineTable}
    (hvnets : computeCfg.vnetAPIClient.listAllComplete = .ok vnets)
    (hvms : getVirtualMachines H computeCfg order = .ok virtualMachines) :
    doResourceInventory H computeCfg order =
      ({ computeCfg with resourcesCache := some ⟨(indexVirtualMachines virtualMachines ∅ ∅).1,
          vnets, (indexVirtualMachines virtualMachines ∅ ∅).2, buildMapVpcPeers vnets⟩ },
        none) := by
  simp only [doResourceInventory, hvnets, hvms]

/-- A poll that returns an error leaves the state as it was. -/
theorem doResourceInventory_error {err : GoError}
    (h : (doResourceInventory H computeCfg order).2 = some err) :
    (doResourceInventory H computeCfg order).1 = computeCfg := by
  revert h
  unfold doResourceInventory
  split
  · intro; rfl
  · split
    · intro; rfl
    · intro h; cases h

/-- A poll through the account config that returns an error records it in the stats and changes
nothing else. -/
theorem performInventorySync_error {err : GoError}
    (h : (performInventorySync H computeCfg order).2 = some err) :
    (performInventorySync H computeCfg order).1 =
      { computeCfg with
        inventoryStats := H.pollStats.updateInventoryPollStats (some err) computeCfg.inventoryStats } := by
  rw [performInventorySync_snd] at h
  simp only [performInventorySync, doResourceInventory_error h, h]

/-- A failing vnet listing fails the poll. -/
theorem doResourceInventory_of_vnets_error {err : GoError}
    (h : computeCfg.vnetAPIClient.listAllComplete = .error err) :
    doResourceInventory H computeCfg order = (computeCfg, some err) := by
  simp only [doResourceInventory, h]

/-- A filter list the `range` order visits is installed, so the filters are not empty. -/
theorem computeFilters_entries_isEmpty (visits : order.Perm computeCfg.computeFilters.values)
    {filters : List Query} (h : filters ∈ order) : computeCfg.computeFilters.entries.isEmpty = false := by
  have := visits.subset h
  cases hc : computeCfg.computeFilters.entries <;> simp_all [GoMap.values]

/-- Without an empty filter list, a failing query of an installed filter fails the poll. -/
theorem doResourceInventory_of_query_error (visits : order.Perm computeCfg.computeFilters.values)
    (noMatchAll : [] ∉ order) {q : Query} (hq : q ∈ order.flatten) {err : GoError}
    (herr : computeCfg.resourceGraphAPIClient.getVirtualMachineTable q
      [computeCfg.credentials.SubscriptionID] = .error err) :
    ∃ e, doResourceInventory H computeCfg order = (computeCfg, some e) := by
  obtain ⟨filters, hfilters, -⟩ := List.mem_flatten.1 hq
  have installed := computeFilters_entries_isEmpty visits hfilters
  obtain ⟨e, he⟩ := queryVirtualMachines_error _ _ hq herr []
  rcases hv : computeCfg.vnetAPIClient.listAllComplete with e' | vnets
  · exact ⟨e', doResourceInventory_of_vnets_error hv⟩
  · refine ⟨e, ?_⟩
    simp only [doResourceInventory, hv, getVirtualMachines, getComputeResourceFilters, installed,
      Bool.false_eq_true, ↓reduceIte, rangeComputeFilters_of_not_mem_nil H _ _ noMatchAll,
      List.nil_append, he]

/-- A poll whose match-all query cannot be built publishes a snapshot without VMs and without vnet
IDs, and returns nil: the error is dropped in `getComputeResourceFilters`. -/
theorem doResourceInventory_of_matchAll_error {vnets : List VirtualNetwork}
    (hvnets : computeCfg.vnetAPIClient.listAllComplete = .ok vnets)
    (visits : order.Perm computeCfg.computeFilters.values) (matchAll : [] ∈ order) {err : GoError}
    (herr : H.getVMsBySubscriptionIDsAndTenantIDsAndLocationsMatchQuery
      [computeCfg.credentials.SubscriptionID] [computeCfg.credentials.TenantID]
      [computeCfg.credentials.region] = .error err) :
    doResourceInventory H computeCfg order =
      ({ computeCfg with resourcesCache := some ⟨∅, vnets, ∅, buildMapVpcPeers vnets⟩ }, none) := by
  have installed := computeFilters_entries_isEmpty visits matchAll
  refine @doResourceInventory_of_ok H computeCfg order vnets [] hvnets ?_
  simp only [getVirtualMachines, getComputeResourceFilters, installed, Bool.false_eq_true,
    ↓reduceIte, rangeComputeFilters_of_mem_nil H _ _ matchAll, herr]

/-- With an empty filter list installed, a match-all query that is built and fails fails the
poll. -/
theorem doResourceInventory_of_matchAll_query_error
    (visits : order.Perm computeCfg.computeFilters.values) (matchAll : [] ∈ order) {allQuery : Query}
    (hall : H.getVMsBySubscriptionIDsAndTenantIDsAndLocationsMatchQuery
      [computeCfg.credentials.SubscriptionID] [computeCfg.credentials.TenantID]
      [computeCfg.credentials.region] = .ok allQuery) {err : GoError}
    (herr : computeCfg.resourceGraphAPIClient.getVirtualMachineTable allQuery
      [computeCfg.credentials.SubscriptionID] = .error err) :
    ∃ e, doResourceInventory H computeCfg order = (computeCfg, some e) := by
  have installed := computeFilters_entries_isEmpty visits matchAll
  rcases hv : computeCfg.vnetAPIClient.listAllComplete with e' | vnets
  · exact ⟨e', doResourceInventory_of_vnets_error hv⟩
  · refine ⟨err, ?_⟩
    simp only [doResourceInventory, hv, getVirtualMachines, getComputeResourceFilters, installed,
      Bool.false_eq_true, ↓reduceIte, rangeComputeFilters_of_mem_nil H _ _ matchAll, hall,
      queryVirtualMachines, herr]

/-- A poll fails only in the ways `PollFails` lists. -/
theorem pollFails_of_error {err : GoError} (h : (doResourceInventory H computeCfg order).2 = some err) :
    PollFails H computeCfg order := by
  rcases hv : computeCfg.vnetAPIClient.listAllComplete with e | vnets
  · exact .inl ⟨e, hv⟩
  rcases hvms : getVirtualMachines H computeCfg order with e | virtualMachines
  · refine .inr ?_
    rcases hempty : computeCfg.computeFilters.entries.isEmpty
    · by_cases matchAll : [] ∈ order
      · rcases hall : H.getVMsBySubscriptionIDsAndTenantIDsAndLocationsMatchQuery
            [computeCfg.credentials.SubscriptionID] [computeCfg.credentials.TenantID]
            [computeCfg.credentials.region] with e' | allQuery <;>
          simp only [getVirtualMachines, getComputeResourceFilters, hempty, Bool.false_eq_true,
            ↓reduceIte, rangeComputeFilters_of_mem_nil H _ _ matchAll, hall, reduceCtorEq] at hvms
        obtain ⟨q, hq, err, hq'⟩ := exists_error_of_queryVirtualMachines _ _ hvms
        rw [List.mem_singleton.1 hq] at hq'
        exact .inr ⟨matchAll, allQuery, rfl, err, hq'⟩
      · simp only [getVirtualMachines, getComputeResourceFilters, hempty, Bool.false_eq_true,
          ↓reduceIte, rangeComputeFilters_of_not_mem_nil H _ _ matchAll, List.nil_append] at hvms
        exact .inl ⟨matchAll, exists_error_of_queryVirtualMachines _ _ hvms⟩
    · simp [getVirtualMachines, getComputeResourceFilters, hempty] at hvms
  · simp [doResourceInventory, hv, hvms] at h

/-- A poll reads the filters, the credentials and the clients, not the snapshot or the stats. -/
theorem getVirtualMachines_resourcesCache (cache : Option ComputeResourcesCacheSnapshot)
    (stats : InventoryStats) :
    getVirtualMachines H { computeCfg with resourcesCache := cache, inventoryStats := stats } order =
      getVirtualMachines H computeCfg order :=
  rfl

variable (computeCfg order) in
/-- The outcome of a poll does not depend on the snapshot it replaces or on the stats: from two
states that differ only there (one of them, say, after `ResetInventoryCache`), a poll returns the
same error, and a successful poll publishes the same snapshot. -/
theorem doResourceInventory_resourcesCache (cache : Option ComputeResourcesCacheSnapshot)
    (stats : InventoryStats) :
    (doResourceInventory H { computeCfg with resourcesCache := cache, inventoryStats := stats }
        order).2 = (doResourceInventory H computeCfg order).2 ∧
      ((doResourceInventory H computeCfg order).2 = none →
        (doResourceInventory H { computeCfg with resourcesCache := cache, inventoryStats := stats }
          order).1 = { (doResourceInventory H computeCfg order).1 with inventoryStats := stats }) := by
  rcases hv : computeCfg.vnetAPIClient.listAllComplete with err | vnets
  · simp [doResourceInventory, hv]
  rcases hvms : getVirtualMachines H computeCfg order with err | virtualMachines <;>
    simp [doResourceInventory, getVirtualMachines_resourcesCache, hv, hvms]

variable (computeCfg order) in
/-- **A reset does not change the next poll.** After `ResetInventoryCache` a poll returns what it
returns without the reset, and when it returns nil it leaves the state it leaves without the
reset: the poll reads neither the snapshot nor the stats, and a poll that returns nil marks the
stats initialized whatever the reset left. -/
theorem performInventorySync_resetInventoryCache :
    (performInventorySync H (resetInventoryCache computeCfg) order).2 =
        (performInventorySync H computeCfg order).2 ∧
      ((performInventorySync H computeCfg order).2 = none →
        (performInventorySync H (resetInventoryCache computeCfg) order).1 =
          (performInventorySync H computeCfg order).1) := by
  obtain ⟨herr, hstate⟩ := doResourceInventory_resourcesCache computeCfg order none
    computeCfg.inventoryStats.resetInventoryPollStats
  refine ⟨herr, fun hok => ?_⟩
  rw [performInventorySync_snd] at hok
  simp only [performInventorySync, resetInventoryCache, hstate hok, herr, hok,
    PollStatsUpdate.none_resetInventoryPollStats]

end Poll

/-- `id` is a VM ID of the state's snapshot. -/
def PublishesVM (computeCfg : ComputeServiceConfig) (id : GoString) : Prop :=
  ∃ snapshot, computeCfg.resourcesCache = some snapshot ∧ id ∈ snapshot.virtualMachines

/-- `id` is a vnet ID of the state's snapshot. -/
def PublishesVnet (computeCfg : ComputeServiceConfig) (id : GoString) : Prop :=
  ∃ snapshot, computeCfg.resourcesCache = some snapshot ∧ id ∈ snapshot.vnetIDs

/-! ### A poll whose match-all query cannot be built -/

/-- Query builders whose match-all query cannot be built. -/
def brokenMatchAllHelpers : PluginHelpers where
  convertSelectorToComputeQuery _ _ _ _ := some []
  getVMsBySubscriptionIDsAndTenantIDsAndLocationsMatchQuery _ _ _ :=
    .error "match-all query creation failed".toList
  pollStats := .recordEveryPoll

/-- A vnet of `eastus`, its ID spelled by the cloud with capitals. -/
def mixedCaseVnet : VirtualNetwork :=
  ⟨("/subscriptions/sub01/resourceGroups/RG01/providers/" ++
      "Microsoft.Network/virtualNetworks/Vnet01").toList,
    "eastus".toList, none⟩

/-- A VM row of `mixedCaseVnet`, its vnet ID spelled as the vnet's. -/
def mixedCaseRow : VirtualMachineTable :=
  ⟨("/subscriptions/sub01/resourceGroups/RG01/providers/" ++
      "Microsoft.Compute/virtualMachines/VM01").toList,
    mixedCaseVnet.ID⟩

/-- The account `default/account01` in `eastus`, whose cloud holds `mixedCaseVnet` and answers
every query with `mixedCaseRow`, with the filters `computeFilters` and the snapshot
`resourcesCache`. -/
def inventoryAccount (computeFilters : GoMap GoString (List Query))
    (resourcesCache : Option ComputeResourcesCacheSnapshot) : ComputeServiceConfig :=
  ⟨⟨"default".toList, "account01".toList⟩, ⟨.ok [mixedCaseVnet]⟩, ⟨fun _ _ => .ok [mixedCaseRow]⟩,
    resourcesCache, ⟨false, none⟩, regionCredentials "eastus", computeFilters, ∅⟩

/-- The snapshot of an earlier poll: `mixedCaseRow` in `mixedCaseVnet`. -/
def earlierSnapshot : ComputeResourcesCacheSnapshot :=
  ⟨AList.singleton (Strings.toLower mixedCaseRow.ID) mixedCaseRow, [mixedCaseVnet],
    AList.singleton mixedCaseRow.VnetID (), ∅⟩

/-- The account with the match-all selector `default/all` installed and the snapshot of an
earlier poll. -/
def matchAllAccount : ComputeServiceConfig :=
  inventoryAccount (AList.singleton "default/all".toList []) (some earlierSnapshot)

/-- With builders that cannot build the match-all query, a poll of `matchAllAccount` returns nil
and replaces the earlier snapshot, which held `mixedCaseRow`, by one without VMs. -/
theorem doResourceInventory_drops_matchAll_error :
    (doResourceInventory brokenMatchAllHelpers matchAllAccount [[]]).2 = none ∧
      (doResourceInventory brokenMatchAllHelpers matchAllAccount [[]]).1.resourcesCache =
        some ⟨∅, [mixedCaseVnet], ∅, ∅⟩ ∧
      PublishesVM matchAllAccount (Strings.toLower mixedCaseRow.ID) ∧
      ¬ PublishesVM (doResourceInventory brokenMatchAllHelpers matchAllAccount [[]]).1
        (Strings.toLower mixedCaseRow.ID) := by
  rw [@doResourceInventory_of_matchAll_error brokenMatchAllHelpers matchAllAccount [[]]
    [mixedCaseVnet] rfl (List.Perm.refl _) (List.mem_singleton_self _) _ rfl]
  refine ⟨rfl, rfl, ⟨_, rfl, by decide⟩, ?_⟩
  rintro ⟨snapshot, hsnapshot, hmem⟩
  cases hsnapshot
  exact AList.not_mem_empty _ hmem

/-! ### The polls that fail -/

/-- **When a poll fails, and what a failed poll leaves.** A poll through the account config fails
exactly when the vnet listing fails, or no filter list is empty and the query of an installed filter
fails, or an empty filter list is installed and the match-all query is built and fails. A failed
poll keeps the snapshot there was, records its error in the stats, and changes nothing else. -/
theorem performInventorySync_fails (computeCfg : ComputeServiceConfig) (order : List (List Query))
    (visits : order.Perm computeCfg.computeFilters.values) :
    ((performInventorySync H computeCfg order).2.isSome ↔ PollFails H computeCfg order) ∧
      ∀ err, (performInventorySync H computeCfg order).2 = some err →
        (performInventorySync H computeCfg order).1 =
          { computeCfg with
            inventoryStats :=
              H.pollStats.updateInventoryPollStats (some err) computeCfg.inventoryStats } ∧
        (performInventorySync H computeCfg order).1.inventoryStats.lastError = some err := by
  refine ⟨⟨fun h => ?_, fun fails => ?_⟩, fun err h => ⟨performInventorySync_error h, ?_⟩⟩
  · obtain ⟨err, herr⟩ := Option.isSome_iff_exists.1 h
    exact pollFails_of_error (by rwa [performInventorySync_snd] at herr)
  · obtain ⟨err, hpoll⟩ : ∃ err, doResourceInventory H computeCfg order = (computeCfg, some err) := by
      rcases fails with ⟨err, hv⟩ | ⟨noMatchAll, q, hq, err, herr⟩ |
        ⟨matchAll, allQuery, hall, err, herr⟩
      · exact ⟨err, doResourceInventory_of_vnets_error hv⟩
      · exact doResourceInventory_of_query_error visits noMatchAll hq herr
      · exact doResourceInventory_of_matchAll_query_error visits matchAll hall herr
    simp [hpoll]
  · rw [performInventorySync_error h]
    exact H.pollStats.some_lastError _ _

/-- The account with the match-all selector and an earlier snapshot, whose vnet listing now
fails. -/
def offlineAccount : ComputeServiceConfig :=
  { matchAllAccount with vnetAPIClient := ⟨.error "vnet listing failed".toList⟩ }

/-- A poll of `offlineAccount` fails, keeps the earlier snapshot and records the listing's
error. -/
theorem performInventorySync_fails_offline :
    [[]].Perm offlineAccount.computeFilters.values ∧ PollFails eastusHelpers offlineAccount [[]] ∧
      (performInventorySync eastusHelpers offlineAccount [[]]).1.resourcesCache =
        some earlierSnapshot ∧
      (performInventorySync eastusHelpers offlineAccount [[]]).1.inventoryStats.lastError =
        some "vnet listing failed".toList :=
  have visits : [[]].Perm offlineAccount.computeFilters.values := List.Perm.refl _
  have outcome := performInventorySync_fails eastusHelpers offlineAccount [[]] visits
  have failed : (performInventorySync eastusHelpers offlineAccount [[]]).2 =
      some "vnet listing failed".toList := rfl
  ⟨visits, outcome.1.1 (by rw [failed]; rfl), by rw [(outcome.2 _ failed).1]; rfl,
    (outcome.2 _ failed).2⟩

/-! ## The union law -/

/-- The rows one filter list selects, from the rows `rows q` of each query and the rows `all` of
the match-all query: an empty list selects `all`. -/
def selectedRows (rows : Query → List VirtualMachineTable) (all : List VirtualMachineTable)
    (filters : List Query) : List VirtualMachineTable :=
  if filters = [] then all else filters.flatMap rows

/-- The state with the filter list `filters` installed alone, under `k`. -/
def ComputeServiceConfig.alone (computeCfg : ComputeServiceConfig) (k : GoString)
    (filters : List Query) : ComputeServiceConfig :=
  { computeCfg with computeFilters := AList.singleton k filters }

section Union

variable {H} {computeCfg : ComputeServiceConfig} {order : List (List Query)}
  {rows : Query → List VirtualMachineTable} {allQuery : Query}

/-- When every query succeeds and the match-all query is built, the VM rows of the installed
filters are those each filter list selects, provided each filter selects among the match-all
rows. -/
theorem getVirtualMachines_rows
    (hrows : ∀ q, computeCfg.resourceGraphAPIClient.getVirtualMachineTable q
      [computeCfg.credentials.SubscriptionID] = .ok (rows q))
    (hall : H.getVMsBySubscriptionIDsAndTenantIDsAndLocationsMatchQuery
      [computeCfg.credentials.SubscriptionID] [computeCfg.credentials.TenantID]
      [computeCfg.credentials.region] = .ok allQuery)
    (visits : order.Perm computeCfg.computeFilters.values)
    (subset : ∀ filters ∈ order, ∀ q ∈ filters, ∀ row ∈ rows q, row ∈ rows allQuery) :
    ∃ virtualMachines, getVirtualMachines H computeCfg order = .ok virtualMachines ∧
      ∀ row, row ∈ virtualMachines ↔
        ∃ filters ∈ order, row ∈ selectedRows rows (rows allQuery) filters := by
  have query : ∀ qs : List Query, queryVirtualMachines computeCfg.resourceGraphAPIClient
      [computeCfg.credentials.SubscriptionID] [] qs = .ok (qs.flatMap rows) := fun qs => by
    rw [queryVirtualMachines_ok _ _ rows (fun q _ => hrows q), List.nil_append]
  by_cases hempty : computeCfg.computeFilters.entries.isEmpty
  · have horder : order = [] := by
      have hvalues : computeCfg.computeFilters.values = [] := by
        simp [GoMap.values, List.isEmpty_iff.1 hempty]
      exact List.Perm.eq_nil (hvalues ▸ visits)
    subst horder
    exact ⟨[], by simp [getVirtualMachines, getComputeResourceFilters, hempty], by simp⟩
  by_cases hnil : [] ∈ order
  · refine ⟨rows allQuery, by
      simpa [getVirtualMachines, getComputeResourceFilters, hempty,
        rangeComputeFilters_of_mem_nil H _ _ hnil, hall] using query [allQuery], fun row => ?_⟩
    constructor
    · intro hrow
      exact ⟨[], hnil, by simpa [selectedRows] using hrow⟩
    · rintro ⟨filters, hf, hrow⟩
      unfold selectedRows at hrow
      split at hrow
      · exact hrow
      · obtain ⟨q, hq, hrow⟩ := List.mem_flatMap.1 hrow
        exact subset filters hf q hq row hrow
  · refine ⟨order.flatten.flatMap rows, by
      simpa [getVirtualMachines, getComputeResourceFilters, hempty,
        rangeComputeFilters_of_not_mem_nil H _ _ hnil] using query order.flatten, fun row => ?_⟩
    have selected : ∀ filters ∈ order, selectedRows rows (rows allQuery) filters =
        filters.flatMap rows := fun filters hf => if_neg fun h : filters = [] => hnil (h ▸ hf)
    simp only [List.mem_flatMap, List.mem_flatten]
    constructor
    · rintro ⟨q, ⟨filters, hf, hq⟩, hrow⟩
      exact ⟨filters, hf, by rw [selected filters hf]; exact List.mem_flatMap.2 ⟨q, hq, hrow⟩⟩
    · rintro ⟨filters, hf, hrow⟩
      obtain ⟨q, hq, hrow⟩ := List.mem_flatMap.1 (selected filters hf ▸ hrow)
      exact ⟨q, ⟨filters, hf, hq⟩, hrow⟩

/-- What a poll that gets the rows `virtualMachines` publishes. -/
theorem publishes_of_ok {vnets : List VirtualNetwork} {virtualMachines : List VirtualMachineTable}
    (hvms : getVirtualMachines H computeCfg order = .ok virtualMachines)
    (hvnets : computeCfg.vnetAPIClient.listAllComplete = .ok vnets) (id : GoString) :
    (doResourceInventory H computeCfg order).2 = none ∧
      (PublishesVM (doResourceInventory H computeCfg order).1 id ↔
        ∃ row ∈ virtualMachines, id = Strings.toLower row.ID) ∧
      (PublishesVnet (doResourceInventory H computeCfg order).1 id ↔
        ∃ row ∈ virtualMachines, id = row.VnetID) := by
  rw [doResourceInventory_of_ok hvnets hvms]
  simp [PublishesVM, PublishesVnet, mem_indexVirtualMachines, AList.not_mem_empty]

/-- **The union law.** When the vnets are listed, every query succeeds and the match-all query is
built, a poll returns nil, and its VM IDs and vnet IDs are those the polls of each installed
filter list alone publish, provided each filter selects among the match-all rows. -/
theorem doResourceInventory_union {vnets : List VirtualNetwork}
    (hvnets : computeCfg.vnetAPIClient.listAllComplete = .ok vnets)
    (hrows : ∀ q, computeCfg.resourceGraphAPIClient.getVirtualMachineTable q
      [computeCfg.credentials.SubscriptionID] = .ok (rows q))
    (hall : H.getVMsBySubscriptionIDsAndTenantIDsAndLocationsMatchQuery
      [computeCfg.credentials.SubscriptionID] [computeCfg.credentials.TenantID]
      [computeCfg.credentials.region] = .ok allQuery)
    (visits : order.Perm computeCfg.computeFilters.values)
    (subset : ∀ filters ∈ order, ∀ q ∈ filters, ∀ row ∈ rows q, row ∈ rows allQuery) :
    (doResourceInventory H computeCfg order).2 = none ∧ ∀ id,
      (PublishesVM (doResourceInventory H computeCfg order).1 id ↔
        ∃ k filters, computeCfg.computeFilters.lookup k = some filters ∧
          PublishesVM (doResourceInventory H (computeCfg.alone k filters) [filters]).1 id) ∧
      (PublishesVnet (doResourceInventory H computeCfg order).1 id ↔
        ∃ k filters, computeCfg.computeFilters.lookup k = some filters ∧
          PublishesVnet (doResourceInventory H (computeCfg.alone k filters) [filters]).1 id) := by
  obtain ⟨vms, hvms, hmem⟩ := getVirtualMachines_rows hrows hall visits subset
  have alone : ∀ k filters, computeCfg.computeFilters.lookup k = some filters →
      ∃ vms', getVirtualMachines H (computeCfg.alone k filters) [filters] = .ok vms' ∧
        ∀ row, row ∈ vms' ↔ row ∈ selectedRows rows (rows allQuery) filters := by
    intro k filters hk
    obtain ⟨vms', hvms', hmem'⟩ := @getVirtualMachines_rows H (computeCfg.alone k filters)
      [filters] rows allQuery hrows hall (List.Perm.refl _) fun f hf =>
        List.mem_singleton.1 hf ▸
          subset filters (visits.symm.subset (GoMap.mem_values_of_lookup hk))
    exact ⟨vms', hvms', fun row => by simpa using hmem' row⟩
  have union : ∀ (f : VirtualMachineTable → GoString) id, (∃ row ∈ vms, id = f row) ↔
      ∃ k filters, computeCfg.computeFilters.lookup k = some filters ∧
        ∃ row ∈ selectedRows rows (rows allQuery) filters, id = f row := by
    intro f id
    constructor
    · rintro ⟨row, hrow, rfl⟩
      obtain ⟨filters, hf, hsel⟩ := (hmem row).1 hrow
      obtain ⟨k, hk⟩ := GoMap.exists_lookup_of_mem_values (visits.subset hf)
      exact ⟨k, filters, hk, row, hsel, rfl⟩
    · rintro ⟨k, filters, hk, row, hsel, rfl⟩
      exact ⟨row, (hmem row).2 ⟨filters, visits.symm.subset (GoMap.mem_values_of_lookup hk), hsel⟩,
        rfl⟩
  refine ⟨(publishes_of_ok hvms hvnets []).1, fun id => ⟨?_, ?_⟩⟩
  · rw [(publishes_of_ok hvms hvnets id).2.1, union (fun row => Strings.toLower row.ID)]
    refine exists_congr fun k => exists_congr fun filters => and_congr_right fun hk => ?_
    obtain ⟨vms', hvms', hmem'⟩ := alone k filters hk
    rw [(publishes_of_ok hvms' hvnets id).2.1]
    exact exists_congr fun row => and_congr_left fun _ => (hmem' row).symm
  · rw [(publishes_of_ok hvms hvnets id).2.2, union VirtualMachineTable.VnetID]
    refine exists_congr fun k => exists_congr fun filters => and_congr_right fun hk => ?_
    obtain ⟨vms', hvms', hmem'⟩ := alone k filters hk
    rw [(publishes_of_ok hvms' hvnets id).2.2]
    exact exists_congr fun row => and_congr_left fun _ => (hmem' row).symm

end Union

/-- The account with the selectors `default/web`, with one query, and `default/all`, matching
everything, installed. -/
def webAndAllAccount : ComputeServiceConfig :=
  inventoryAccount ((AList.singleton "default/web".toList ["vm-query".toList]).insert
    "default/all".toList []) none

/-- With builders that cannot build the match-all query, a poll of `webAndAllAccount` returns nil
and publishes no VM, while the poll of `default/web`'s filter alone returns nil and publishes
`mixedCaseRow`. -/
theorem doResourceInventory_union_fails :
    [["vm-query".toList], []].Perm webAndAllAccount.computeFilters.values ∧
      (doResourceInventory brokenMatchAllHelpers webAndAllAccount [["vm-query".toList], []]).2 =
        none ∧
      (doResourceInventory brokenMatchAllHelpers
        (webAndAllAccount.alone "default/web".toList ["vm-query".toList])
        [["vm-query".toList]]).2 = none ∧
      ¬ PublishesVM (doResourceInventory brokenMatchAllHelpers webAndAllAccount
        [["vm-query".toList], []]).1 (Strings.toLower mixedCaseRow.ID) ∧
      PublishesVM (doResourceInventory brokenMatchAllHelpers
        (webAndAllAccount.alone "default/web".toList ["vm-query".toList])
        [["vm-query".toList]]).1 (Strings.toLower mixedCaseRow.ID) := by
  refine ⟨by decide, rfl, rfl, ?_, ⟨_, rfl, by decide⟩⟩
  rintro ⟨snapshot, hsnapshot, hmem⟩
  cases hsnapshot
  exact AList.not_mem_empty _ hmem

/-- With builders that build the match-all query, the union law holds at `webAndAllAccount`. -/
theorem doResourceInventory_union_webAndAll :
    webAndAllAccount.vnetAPIClient.listAllComplete = .ok [mixedCaseVnet] ∧
      (∀ q, webAndAllAccount.resourceGraphAPIClient.getVirtualMachineTable q
        [webAndAllAccount.credentials.SubscriptionID] = .ok [mixedCaseRow]) ∧
      eastusHelpers.getVMsBySubscriptionIDsAndTenantIDsAndLocationsMatchQuery
        [webAndAllAccount.credentials.SubscriptionID] [webAndAllAccount.credentials.TenantID]
        [webAndAllAccount.credentials.region] = .ok "all-vms".toList ∧
      (doResourceInventory eastusHelpers webAndAllAccount
          webAndAllAccount.computeFilters.values).2 = none ∧
      ∀ id, (PublishesVM (doResourceInventory eastusHelpers webAndAllAccount
            webAndAllAccount.computeFilters.values).1 id ↔
          ∃ k filters, webAndAllAccount.computeFilters.lookup k = some filters ∧
            PublishesVM (doResourceInventory eastusHelpers (webAndAllAccount.alone k filters)
              [filters]).1 id) ∧
        (PublishesVnet (doResourceInventory eastusHelpers webAndAllAccount
            webAndAllAccount.computeFilters.values).1 id ↔
          ∃ k filters, webAndAllAccount.computeFilters.lookup k = some filters ∧
            PublishesVnet (doResourceInventory eastusHelpers (webAndAllAccount.alone k filters)
              [filters]).1 id) :=
  have hvnets : webAndAllAccount.vnetAPIClient.listAllComplete = .ok [mixedCaseVnet] := rfl
  have hrows : ∀ q, webAndAllAccount.resourceGraphAPIClient.getVirtualMachineTable q
      [webAndAllAccount.credentials.SubscriptionID] = .ok [mixedCaseRow] := fun _ => rfl
  have hall : eastusHelpers.getVMsBySubscriptionIDsAndTenantIDsAndLocationsMatchQuery
      [webAndAllAccount.credentials.SubscriptionID] [webAndAllAccount.credentials.TenantID]
      [webAndAllAccount.credentials.region] = .ok "all-vms".toList := rfl
  ⟨hvnets, hrows, hall, doResourceInventory_union hvnets hrows hall (List.Perm.refl _)
    fun _ _ _ _ _ h => h⟩

/-! ## The managed flag -/

section ReadSide

variable (computeCfg : ComputeServiceConfig) (vnetIDs : GoMap GoString Unit)

/-- The keys of the loop of `GetVpcInventory`: those it starts with, and the lowercased IDs of the
vnets of the region. -/
theorem mem_foldl_addVpcObject (vnets : List VirtualNetwork) (vpcMap : GoMap GoString VpcObject)
    (k : GoString) :
    k ∈ vnets.foldl (addVpcObject computeCfg vnetIDs) vpcMap ↔ k ∈ vpcMap ∨
      ∃ vpc ∈ vnets, Strings.equalFold vpc.Location computeCfg.credentials.region ∧
        k = Strings.toLower vpc.ID := by
  induction vnets generalizing vpcMap with
  | nil => simp
  | cons vpc rest ih =>
    rw [List.foldl_cons, ih]
    unfold addVpcObject
    split
    · simp_all [AList.mem_insert, or_assoc]
      exact or_left_comm
    · simp_all

/-- An entry the loop of `GetVpcInventory` adds is flagged managed exactly when its key is one of
`vnetIDs`. -/
theorem lookup_foldl_addVpcObject {vnets : List VirtualNetwork} {vpcMap : GoMap GoString VpcObject}
    {k : GoString} {o : VpcObject}
    (h : (vnets.foldl (addVpcObject computeCfg vnetIDs) vpcMap).lookup k = some o) :
    vpcMap.lookup k = some o ∨ o.managed = decide (k ∈ vnetIDs) := by
  induction vnets generalizing vpcMap with
  | nil => exact .inl h
  | cons vpc rest ih =>
    refine (ih h).elim (fun h' => ?_) .inr
    unfold addVpcObject at h'
    split at h'
    · by_cases hk : k = Strings.toLower vpc.ID
      · subst hk
        rw [AList.lookup_insert, Option.some.injEq] at h'
        exact .inr (h' ▸ rfl)
      · exact .inl (by rwa [AList.lookup_insert_ne hk] at h')
    · exact .inl h'

/-- An entry the loop of `GetVpcInventory` adds is the object of one of its vnets, of the account's
region, under the vnet's lowercased ID, tagged with the account and its lowercased region. -/
theorem lookup_foldl_addVpcObject_vnet {vnets : List VirtualNetwork}
    {vpcMap : GoMap GoString VpcObject} {k : GoString} {o : VpcObject}
    (h : (vnets.foldl (addVpcObject computeCfg vnetIDs) vpcMap).lookup k = some o) :
    vpcMap.lookup k = some o ∨ (o.vnet ∈ vnets ∧ k = Strings.toLower o.vnet.ID ∧
      Strings.equalFold o.vnet.Location computeCfg.credentials.region ∧
      o.AccountNamespace = computeCfg.account.Namespace ∧ o.AccountName = computeCfg.account.Name ∧
      o.Region = Strings.toLower computeCfg.credentials.region) := by
  induction vnets generalizing vpcMap with
  | nil => exact .inl h
  | cons vpc rest ih =>
    refine (ih h).elim (fun h' => ?_) fun ⟨hmem, hrest⟩ => .inr ⟨List.mem_cons_of_mem _ hmem, hrest⟩
    unfold addVpcObject at h'
    split at h'
    · by_cases hk : k = Strings.toLower vpc.ID
      · subst hk
        rw [AList.lookup_insert, Option.some.injEq] at h'
        subst h'
        exact .inr ⟨List.mem_cons_self _ _, rfl, ‹_›, rfl, rfl, rfl⟩
      · exact .inl (by rwa [AList.lookup_insert_ne hk] at h')
    · exact .inl h'

/-- `GetVpcInventory` of a state with a snapshot: every vnet of the account's region has an entry
under its lowercased ID, flagged managed exactly when that ID is a vnet ID of the snapshot. -/
theorem getVpcInventory_entry {snapshot : ComputeResourcesCacheSnapshot}
    (h : computeCfg.resourcesCache = some snapshot) {vpc : VirtualNetwork}
    (hvpc : vpc ∈ snapshot.vnets)
    (hregion : Strings.equalFold vpc.Location computeCfg.credentials.region = true) :
    ∃ vpcMap o, getVpcInventory computeCfg = some vpcMap ∧
      vpcMap.lookup (Strings.toLower vpc.ID) = some o ∧
        (o.managed = true ↔ Strings.toLower vpc.ID ∈ snapshot.vnetIDs) := by
  have hids : getManagedVnetIDs computeCfg = snapshot.vnetIDs := by simp [getManagedVnetIDs, h]
  have hmem := (mem_foldl_addVpcObject computeCfg (getManagedVnetIDs computeCfg) snapshot.vnets ∅
    (Strings.toLower vpc.ID)).2 (.inr ⟨vpc, hvpc, hregion, rfl⟩)
  obtain ⟨o, ho⟩ := Option.isSome_iff_exists.1 (AList.lookup_isSome.2 hmem)
  refine ⟨_, o, by simp [getVpcInventory, h], ho, ?_⟩
  rcases lookup_foldl_addVpcObject computeCfg _ ho with h₀ | hmanaged
  · simp at h₀
  · rw [hmanaged, hids, decide_eq_true_iff]

end ReadSide

/-- After a poll that gets the rows `virtualMachines`, every listed vnet of the account's region
has an entry under its lowercased ID, flagged managed exactly when some row's vnet ID, as the
cloud spells it, is that lowercased ID. -/
theorem getVpcInventory_managed {computeCfg : ComputeServiceConfig} {order : List (List Query)}
    {vnets : List VirtualNetwork} {virtualMachines : List VirtualMachineTable}
    (hvnets : computeCfg.vnetAPIClient.listAllComplete = .ok vnets)
    (hvms : getVirtualMachines H computeCfg order = .ok virtualMachines) {vpc : VirtualNetwork}
    (hvpc : vpc ∈ vnets)
    (hregion : Strings.equalFold vpc.Location computeCfg.credentials.region = true) :
    ∃ vpcMap o, getVpcInventory (doResourceInventory H computeCfg order).1 = some vpcMap ∧
      vpcMap.lookup (Strings.toLower vpc.ID) = some o ∧
        (o.managed = true ↔ ∃ row ∈ virtualMachines, row.VnetID = Strings.toLower vpc.ID) := by
  rw [doResourceInventory_of_ok hvnets hvms]
  obtain ⟨vpcMap, o, hmap, ho, hmanaged⟩ := getVpcInventory_entry
    { computeCfg with resourcesCache := some ⟨(indexVirtualMachines virtualMachines ∅ ∅).1, vnets,
      (indexVirtualMachines virtualMachines ∅ ∅).2, buildMapVpcPeers vnets⟩ } rfl hvpc hregion
  refine ⟨vpcMap, o, hmap, ho, hmanaged.trans ?_⟩
  simp [mem_indexVirtualMachines, AList.not_mem_empty, eq_comm]

/-- The account with the selector `default/web` installed. -/
def webAccount : ComputeServiceConfig :=
  inventoryAccount (AList.singleton "default/web".toList ["vm-query".toList]) none

/-- After a poll of `webAccount`, whose VM row `mixedCaseRow` names as its vnet ID exactly the ID
of `mixedCaseVnet`, `GetVpcInventory` flags `mixedCaseVnet` unmanaged. -/
theorem getVpcInventory_mixed_case_unmanaged :
    mixedCaseRow.VnetID = mixedCaseVnet.ID ∧
      (doResourceInventory brokenMatchAllHelpers webAccount [["vm-query".toList]]).2 = none ∧
      ((getVpcInventory (doResourceInventory brokenMatchAllHelpers webAccount
        [["vm-query".toList]]).1).bind fun vpcMap =>
          vpcMap.lookup (Strings.toLower mixedCaseVnet.ID)).map VpcObject.managed = some false := by
  obtain ⟨vpcMap, o, hmap, ho, hmanaged⟩ :=
    @getVpcInventory_managed brokenMatchAllHelpers webAccount [["vm-query".toList]] [mixedCaseVnet]
      [mixedCaseRow] rfl rfl _ (List.mem_singleton_self _) rfl
  have unmanaged : o.managed = false :=
    Bool.eq_false_iff.2 fun h => absurd (hmanaged.1 h) (by decide)
  exact ⟨rfl, rfl, by rw [hmap, Option.some_bind, ho, Option.map_some', unmanaged]⟩

/-! ## The peerings -/

/-- The peerings `buildMapVpcPeers` records for one vnet, in order. -/
def vnetPeerings (result : VirtualNetwork) : List (List GoString) :=
  match result.Properties with
  | none => []
  | some properties => properties.VirtualNetworkPeerings.map (peerEntry properties)

section Peers

variable {f : GoMap GoString (List (List GoString)) → VirtualNetworkPeering →
  GoMap GoString (List (List GoString))} {accepterID : GoString}
  {entry : VirtualNetworkPeering → List GoString}

/-- The inner loop of `buildMapVpcPeers` appends the entries of the peerings to the list of
`accepterID`, and touches no other key. -/
theorem foldl_appendPeering
    (hf : ∀ vpcPeers peerConn, f vpcPeers peerConn =
      vpcPeers.insert accepterID ((vpcPeers.lookup accepterID).getD [] ++ [entry peerConn]))
    (peerings : List VirtualNetworkPeering) (vpcPeers : GoMap GoString (List (List GoString)))
    (k : GoString) :
    ((peerings.foldl f vpcPeers).lookup k).getD [] =
        (vpcPeers.lookup k).getD [] ++ (if k = accepterID then peerings.map entry else []) ∧
      (k ∈ peerings.foldl f vpcPeers ↔ k ∈ vpcPeers ∨ (k = accepterID ∧ peerings ≠ [])) := by
  induction peerings generalizing vpcPeers with
  | nil => simp
  | cons peerConn rest ih =>
    rw [List.foldl_cons, (ih _).1, (ih _).2, hf]
    by_cases hk : k = accepterID
    · subst hk; simp
    · simp [AList.lookup_insert_ne hk, AList.mem_insert, hk]

end Peers

/-- One vnet's turn of `buildMapVpcPeers` appends its peerings to the list of its lowercased ID. -/
theorem addVpcPeers_lookup (vpcPeers : GoMap GoString (List (List GoString)))
    (result : VirtualNetwork) (k : GoString) :
    ((addVpcPeers vpcPeers result).lookup k).getD [] = (vpcPeers.lookup k).getD [] ++
        (if Strings.toLower result.ID = k then vnetPeerings result else []) ∧
      (k ∈ addVpcPeers vpcPeers result ↔
        k ∈ vpcPeers ∨ (Strings.toLower result.ID = k ∧ vnetPeerings result ≠ [])) := by
  rcases hp : result.Properties with _ | properties
  · simp [addVpcPeers, vnetPeerings, hp]
  · simp only [addVpcPeers, vnetPeerings, hp, eq_comm (a := Strings.toLower result.ID)]
    simpa using foldl_appendPeering (fun _ _ => rfl) properties.VirtualNetworkPeerings vpcPeers k

/-- `buildMapVpcPeers` groups the peerings by the lowercased ID of their vnet: the list of `k`
holds, in order, the peerings of every listed vnet whose lowercased ID is `k`, and `k` is a key
exactly when that list is not empty. -/
theorem buildMapVpcPeers_lookup (results : List VirtualNetwork) (k : GoString) :
    ((buildMapVpcPeers results).lookup k).getD [] =
        (results.filter fun result => Strings.toLower result.ID = k).flatMap vnetPeerings ∧
      (k ∈ buildMapVpcPeers results ↔
        (results.filter fun result => Strings.toLower result.ID = k).flatMap vnetPeerings ≠
          []) := by
  suffices h : ∀ vpcPeers, ((results.foldl addVpcPeers vpcPeers).lookup k).getD [] =
      (vpcPeers.lookup k).getD [] ++
        (results.filter fun result => Strings.toLower result.ID = k).flatMap vnetPeerings ∧
      (k ∈ results.foldl addVpcPeers vpcPeers ↔ k ∈ vpcPeers ∨
        (results.filter fun result => Strings.toLower result.ID = k).flatMap vnetPeerings ≠ []) by
    simpa [buildMapVpcPeers, AList.not_mem_empty] using h ∅
  induction results with
  | nil => simp
  | cons result rest ih =>
    intro vpcPeers
    rw [List.foldl_cons, (ih _).1, (ih _).2, (addVpcPeers_lookup _ _ _).1,
      (addVpcPeers_lookup _ _ _).2]
    by_cases hk : Strings.toLower result.ID = k
    · simp only [hk, List.filter_cons, decide_True, ↓reduceIte, List.flatMap_cons,
        List.append_assoc, ne_eq, List.append_eq_nil, not_and_or, true_and, or_assoc]
    · simp [hk, List.filter_cons]

/-! ## The reads of a poll's snapshot -/

/-- The row a poll keeps under the lowercased ID `id`: the last row read with that ID. -/
def lastRow (rows : List VirtualMachineTable) (id : GoString) : Option VirtualMachineTable :=
  rows.reverse.find? fun row => Strings.toLower row.ID = id

/-- What a snapshot of a poll satisfies: each row sits under its lowercased ID, the vnet ID of
each row is recorded, and the peerings are those of the listed vnets. -/
structure SnapshotWellFormed (snapshot : ComputeResourcesCacheSnapshot) : Prop where
  keys : ∀ s ∈ snapshot.virtualMachines.entries, Strings.toLower s.2.ID = s.1
  vnetIDs : ∀ row ∈ snapshot.virtualMachines.values, row.VnetID ∈ snapshot.vnetIDs
  vnetPeers : snapshot.vnetPeers = buildMapVpcPeers snapshot.vnets

/-- The row map of a poll holds under each lowercased ID the last row read with that ID. -/
theorem lookup_indexVirtualMachines (rows : List VirtualMachineTable) (id : GoString) :
    (indexVirtualMachines rows ∅ ∅).1.lookup id = lastRow rows id := by
  simp [indexVirtualMachines_fst, GoMap.lookup_foldl_insert, lastRow]

/-- Every row of a poll's row map sits under its lowercased ID. -/
theorem indexVirtualMachines_keys (rows : List VirtualMachineTable) :
    ∀ s ∈ (indexVirtualMachines rows ∅ ∅).1.entries, Strings.toLower s.2.ID = s.1 := fun s hs => by
  have h := AList.mem_lookup_iff.2 hs
  rw [lookup_indexVirtualMachines] at h
  simpa using List.find?_some h

/-- Every row of a poll's row map is a row the poll read. -/
theorem mem_of_mem_indexVirtualMachines {rows : List VirtualMachineTable}
    {row : VirtualMachineTable} (h : row ∈ (indexVirtualMachines rows ∅ ∅).1.values) :
    row ∈ rows := by
  obtain ⟨id, hid⟩ := GoMap.exists_lookup_of_mem_values h
  rw [lookup_indexVirtualMachines] at hid
  exact List.mem_reverse.1 (List.mem_of_find?_eq_some hid)

/-- The snapshot a poll publishes from the vnets `vnets` and the rows `rows` is well formed. -/
theorem snapshotWellFormed_of_rows (vnets : List VirtualNetwork) (rows : List VirtualMachineTable) :
    SnapshotWellFormed ⟨(indexVirtualMachines rows ∅ ∅).1, vnets, (indexVirtualMachines rows ∅ ∅).2,
      buildMapVpcPeers vnets⟩ where
  keys := indexVirtualMachines_keys rows
  vnetIDs _ h :=
    (mem_indexVirtualMachines rows ∅ ∅ _).2.2 (.inr ⟨_, mem_of_mem_indexVirtualMachines h, rfl⟩)
  vnetPeers := rfl

/-- The rows of a well-formed snapshot have distinct lowercased IDs. -/
theorem SnapshotWellFormed.nodup {snapshot : ComputeResourcesCacheSnapshot}
    (w : SnapshotWellFormed snapshot) :
    (snapshot.virtualMachines.values.map fun row => Strings.toLower row.ID).Nodup := by
  simp only [GoMap.values, List.map_map, Function.comp_def, List.map_congr_left w.keys]
  exact snapshot.virtualMachines.nodupKeys

section Reads

variable {H} {computeCfg : ComputeServiceConfig} {order : List (List Query)}
  {vnets : List VirtualNetwork} {virtualMachines : List VirtualMachineTable}

/-- **The cached VMs of a poll.** After a poll that gets the rows `virtualMachines`,
`getCachedVirtualMachines` returns one row for each lowercased ID among them, the last row read
with that ID, and nothing else: two filters that select the same VM, or two rows whose IDs differ
only in case, give one cached VM. -/
theorem getCachedVirtualMachines_of_poll
    (hvnets : computeCfg.vnetAPIClient.listAllComplete = .ok vnets)
    (hvms : getVirtualMachines H computeCfg order = .ok virtualMachines) :
    (∀ row, row ∈ getCachedVirtualMachines (doResourceInventory H computeCfg order).1 ↔
        lastRow virtualMachines (Strings.toLower row.ID) = some row) ∧
      ((getCachedVirtualMachines (doResourceInventory H computeCfg order).1).map
        fun row => Strings.toLower row.ID).Nodup := by
  rw [doResourceInventory_of_ok hvnets hvms]
  refine ⟨fun row => ⟨fun hrow => ?_, fun h => ?_⟩,
    (snapshotWellFormed_of_rows vnets virtualMachines).nodup⟩
  · obtain ⟨s, hs, rfl⟩ := List.mem_map.1 hrow
    rw [indexVirtualMachines_keys _ s hs, ← lookup_indexVirtualMachines]
    exact AList.mem_lookup_iff.2 hs
  · rw [← lookup_indexVirtualMachines] at h
    exact GoMap.mem_values_of_lookup h

/-- The account with two selectors whose queries both return `mixedCaseRow`. -/
def twoFilterAccount : ComputeServiceConfig :=
  inventoryAccount ((AList.singleton "default/web".toList ["vm-query".toList]).insert
    "default/db".toList ["db-query".toList]) none

/-- A poll of `twoFilterAccount` reads `mixedCaseRow` twice and caches it once. -/
theorem getCachedVirtualMachines_of_poll_twoFilters :
    twoFilterAccount.vnetAPIClient.listAllComplete = .ok [mixedCaseVnet] ∧
      getVirtualMachines brokenMatchAllHelpers twoFilterAccount
          [["db-query".toList], ["vm-query".toList]] = .ok [mixedCaseRow, mixedCaseRow] ∧
      ((∀ row, row ∈ getCachedVirtualMachines (doResourceInventory brokenMatchAllHelpers
            twoFilterAccount [["db-query".toList], ["vm-query".toList]]).1 ↔
          lastRow [mixedCaseRow, mixedCaseRow] (Strings.toLower row.ID) = some row) ∧
        ((getCachedVirtualMachines (doResourceInventory brokenMatchAllHelpers twoFilterAccount
          [["db-query".toList], ["vm-query".toList]]).1).map
            fun row => Strings.toLower row.ID).Nodup) :=
  have hvnets : twoFilterAccount.vnetAPIClient.listAllComplete = .ok [mixedCaseVnet] := rfl
  have hvms : getVirtualMachines brokenMatchAllHelpers twoFilterAccount
      [["db-query".toList], ["vm-query".toList]] = .ok [mixedCaseRow, mixedCaseRow] := rfl
  ⟨hvnets, hvms, getCachedVirtualMachines_of_poll hvnets hvms⟩

/-- **The vnet reads of a poll.** After a poll that lists the vnets `vnets`, `getManagedVnets`
holds under each lowercased ID the last listed vnet with that ID, and `getVnetPeers id` returns the
peerings of every listed vnet whose lowercased ID is `id`, in listing order: empty, not nil, when
there are none. -/
theorem getManagedVnets_getVnetPeers_of_poll
    (hvnets : computeCfg.vnetAPIClient.listAllComplete = .ok vnets)
    (hvms : getVirtualMachines H computeCfg order = .ok virtualMachines) (id : GoString) :
    (getManagedVnets (doResourceInventory H computeCfg order).1).lookup id =
        vnets.reverse.find? (fun vnet => Strings.toLower vnet.ID = id) ∧
      getVnetPeers (doResourceInventory H computeCfg order).1 id =
        some ((vnets.filter fun vnet => Strings.toLower vnet.ID = id).flatMap vnetPeerings) := by
  rw [doResourceInventory_of_ok hvnets hvms]
  exact ⟨by simp [getManagedVnets, GoMap.lookup_foldl_insert],
    by simp [getVnetPeers, (buildMapVpcPeers_lookup vnets id).1]⟩

/-- After a poll of `webAccount`, the managed vnet and the peerings under the lowercased ID of
`mixedCaseVnet`, which has no properties. -/
theorem getManagedVnets_getVnetPeers_of_poll_web :
    webAccount.vnetAPIClient.listAllComplete = .ok [mixedCaseVnet] ∧
      getVirtualMachines brokenMatchAllHelpers webAccount [["vm-query".toList]] =
        .ok [mixedCaseRow] ∧
      ((getManagedVnets (doResourceInventory brokenMatchAllHelpers webAccount
            [["vm-query".toList]]).1).lookup (Strings.toLower mixedCaseVnet.ID) =
          [mixedCaseVnet].reverse.find?
            (fun vnet => Strings.toLower vnet.ID = Strings.toLower mixedCaseVnet.ID) ∧
        getVnetPeers (doResourceInventory brokenMatchAllHelpers webAccount
            [["vm-query".toList]]).1 (Strings.toLower mixedCaseVnet.ID) =
          some (([mixedCaseVnet].filter fun vnet =>
            Strings.toLower vnet.ID = Strings.toLower mixedCaseVnet.ID).flatMap vnetPeerings)) :=
  have hvnets : webAccount.vnetAPIClient.listAllComplete = .ok [mixedCaseVnet] := rfl
  have hvms : getVirtualMachines brokenMatchAllHelpers webAccount [["vm-query".toList]] =
      .ok [mixedCaseRow] := rfl
  ⟨hvnets, hvms, getManagedVnets_getVnetPeers_of_poll hvnets hvms _⟩

end Reads

/-! ## The snapshot over runs -/

section Runs

variable {H}

/-- A poll that returns nil publishes a well-formed snapshot. -/
theorem doResourceInventory_snapshot {computeCfg : ComputeServiceConfig}
    {order : List (List Query)} (ok : (doResourceInventory H computeCfg order).2 = none) :
    ∃ snapshot, (doResourceInventory H computeCfg order).1.resourcesCache = some snapshot ∧
      SnapshotWellFormed snapshot := by
  rcases hv : computeCfg.vnetAPIClient.listAllComplete with err | vnets
  · simp [doResourceInventory_of_vnets_error hv] at ok
  rcases hvms : getVirtualMachines H computeCfg order with err | rows
  · simp [doResourceInventory, hv, hvms] at ok
  rw [doResourceInventory_of_ok hv hvms]
  exact ⟨_, rfl, snapshotWellFormed_of_rows vnets rows⟩

/-- What one call does to the snapshot: `ResetInventoryCache` clears it, a poll that returns nil
publishes a well-formed one, and every other call, a failed poll included, leaves it. -/
theorem ServiceStep.resourcesCache {computeCfg computeCfg' : ComputeServiceConfig}
    {e : ComputeEvent} (s : ServiceStep H computeCfg e computeCfg') :
    (e = .reset ∧ computeCfg'.resourcesCache = none) ∨
      (e = .polled none ∧ ∃ snapshot, computeCfg'.resourcesCache = some snapshot ∧
        SnapshotWellFormed snapshot) ∨
      (e ≠ .reset ∧ e ≠ .polled none ∧ computeCfg'.resourcesCache = computeCfg.resourcesCache) := by
  cases s with
  | add selector =>
    refine .inr (.inr ⟨?_, ?_, addResourceFilters_resourcesCache H _ _⟩) <;>
      cases (addResourceFilters H computeCfg selector).2 <;> simp [ComputeEvent.ofAdd]
  | remove n => exact .inr (.inr ⟨by simp, by simp, rfl⟩)
  | update newConfig order visits =>
    exact .inr (.inr ⟨by simp, by simp, updateServiceConfig_resourcesCache H _ _ _⟩)
  | poll order visits =>
    rcases h : (doResourceInventory H computeCfg order).2 with _ | err
    · exact .inr (.inl ⟨by simp [h], doResourceInventory_snapshot h⟩)
    · exact .inr (.inr ⟨by simp, by simp [h], by simp [doResourceInventory_error h]⟩)
  | reset => exact .inl ⟨rfl, rfl⟩

/-- **The snapshot law of one compute service.** Over every run, the service has a snapshot
exactly when a poll returned nil with no `ResetInventoryCache` after it, and every snapshot it has
is well formed. -/
theorem reachable_snapshot {computeCfg : ComputeServiceConfig} {log : List ComputeEvent}
    (h : Reachable H computeCfg log) :
    (computeCfg.resourcesCache.isSome ↔ SinceLast log (.polled none) (· = .reset)) ∧
      ∀ snapshot, computeCfg.resourcesCache = some snapshot → SnapshotWellFormed snapshot := by
  refine Reachable.step_induction (fun _ _ _ _ => ?_) (fun ih s => ?_) h
  · simp [newComputeServiceConfig]
  obtain ⟨hsome, hwf⟩ := ih
  rw [sinceLast_append_singleton]
  rcases s.resourcesCache with ⟨rfl, hc⟩ | ⟨rfl, snapshot, hc, hs⟩ | ⟨hreset, hpoll, hc⟩
  · simp [hc]
  · rw [hc]
    exact ⟨by simp, fun _ h => Option.some.inj h ▸ hs⟩
  · rw [hc]
    exact ⟨by simp [hsome, Ne.symm hpoll, hreset], hwf⟩

end Runs

end Nephe.Azure
