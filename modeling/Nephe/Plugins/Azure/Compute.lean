import Nephe.Plugins.AccountMgmt

/-!
# The Azure compute service

`computeServiceConfig` is the per-account state of the Azure plugin: the SDK clients, the
credentials, the installed resource filters with the selectors they were compiled from, the cache
of the last inventory snapshot, and the poll stats. This file is its shallow embedding.

* The filter store. `AddResourceFilters` compiles a selector with the account's subscription,
  tenant and region and stores the query list and a copy of the selector under
  `namespace/name`; `RemoveResourceFilters` deletes both entries of a `NamespacedName`;
  `UpdateServiceConfig` swaps in new clients and credentials, then re-adds every stored selector,
  stopping at the first failure.
* The inventory poll. `DoResourceInventory` lists the vnets, then runs the VM query of every
  installed filter (an empty filter list stands for the whole subscription, tenant and region, and
  is then the only query), and publishes one snapshot: the rows by lowercased ID, the vnets, the
  vnet IDs of the rows, and the peerings. The account config's `performInventorySync` runs it and
  records its error in the poll stats; `ResetInventoryCache` drops the snapshot and marks the stats
  uninitialized.
* The read side. `GetVpcInventory` turns the snapshot's vnets of the account's region into VPC
  objects, flagged managed when their lowercased ID is one of the snapshot's vnet IDs. The other
  reads return the snapshot's rows, its vnets by lowercased ID, and the peerings of one vnet.

Go's `range` over a map visits its entries in an unspecified order; the functions that range over
a map take that order as an argument. The query builders of the plugin, the update of the poll
stats, and the paged VM query of the Resource Graph client are not in src/: `PluginHelpers` and
the client record hold them.

## Main definitions

* `Nephe.Azure.ComputeServiceConfig` — the per-account state
* `addResourceFilters`, `removeResourceFilters`, `updateServiceConfig` — the filter store
* `getComputeResourceFilters`, `getVirtualMachines`, `doResourceInventory` — the poll
* `InventoryStats`, `PollStatsUpdate`, `performInventorySync`, `resetInventoryCache` — the poll
  stats, and the account config's calls that write them
* `buildMapVpcPeers`, `getVpcInventory` and their loop bodies `addVpcPeers`, `addVpcObject` — the
  peerings and the VPC read side
* `getCachedVirtualMachines`, `getManagedVnets`, `getVnetPeers` — the other reads of the snapshot
-/

namespace Nephe.Azure

/-- A Resource Graph query: the KQL text of a compiled selector. -/
abbrev Query := GoString

/-- `EntityMatch`: a match on a cloud entity's ID, name or tags. -/
structure EntityMatch where
  MatchID : GoString
  MatchName : GoString
  MatchTags : List (GoString × GoString)
  deriving DecidableEq, Repr

/-- `VirtualMachineSelector`: a VM match rule, optionally scoped by a VPC match. -/
structure VirtualMachineSelector where
  VpcMatch : Option EntityMatch
  VMMatch : List EntityMatch
  deriving DecidableEq, Repr

/-- `CloudEntitySelector`: its name, namespace and VM match rules. -/
structure CloudEntitySelector where
  Namespace : GoString
  Name : GoString
  VMSelector : List VirtualMachineSelector
  deriving DecidableEq, Repr

/-- The selector's `NamespacedName`. -/
def CloudEntitySelector.namespacedName (selector : CloudEntitySelector) : NamespacedName :=
  ⟨selector.Namespace, selector.Name⟩

/-- A row of the VM table a Resource Graph query returns: the fields the inventory reads. -/
structure VirtualMachineTable where
  ID : GoString
  VnetID : GoString
  deriving DecidableEq, Repr

/-- `armnetwork.AddressSpace`. -/
structure AddressSpace where
  AddressPrefixes : List GoString
  deriving DecidableEq, Repr

/-- `armnetwork.VirtualNetworkPeeringPropertiesFormat`: the remote vnet's ID and address space. -/
structure VirtualNetworkPeeringPropertiesFormat where
  RemoteVirtualNetwork : Option GoString
  RemoteAddressSpace : Option AddressSpace
  deriving DecidableEq, Repr

/-- `armnetwork.VirtualNetworkPeering`. -/
structure VirtualNetworkPeering where
  Properties : Option VirtualNetworkPeeringPropertiesFormat
  deriving DecidableEq, Repr

/-- `armnetwork.VirtualNetworkPropertiesFormat`. -/
structure VirtualNetworkPropertiesFormat where
  AddressSpace : Option AddressSpace
  VirtualNetworkPeerings : List VirtualNetworkPeering
  deriving DecidableEq, Repr

/-- `armnetwork.VirtualNetwork`, the fields the plugin reads. -/
structure VirtualNetwork where
  ID : GoString
  Location : GoString
  Properties : Option VirtualNetworkPropertiesFormat
  deriving DecidableEq, Repr

/-- `computeResourcesCacheSnapshot`. -/
structure ComputeResourcesCacheSnapshot where
  virtualMachines : GoMap GoString VirtualMachineTable
  vnets : List VirtualNetwork
  vnetIDs : GoMap GoString Unit
  vnetPeers : GoMap GoString (List (List GoString))
  deriving DecidableEq

/-- `azureVirtualNetworksWrapper`, as the inventory uses it. -/
structure AzureVirtualNetworksWrapper where
  listAllComplete : Except GoError (List VirtualNetwork)

/-- `azureResourceGraphWrapper`, as the inventory uses it. -/
structure AzureResourceGraphWrapper where
  /-- `getVirtualMachineTable` with this client: the rows a query selects in the given
  subscriptions, every page read. -/
  getVirtualMachineTable : Query → List GoString → Except GoError (List VirtualMachineTable)

/-- The poll stats of an account, `internal.CloudServiceStats`, which is not in src/: whether the
inventory is initialized, and the error of the last poll. The framework also keeps the time of the
last success; the model has no clock and leaves it out. -/
structure InventoryStats where
  initialized : Bool
  lastError : Option GoError
  deriving DecidableEq, Repr

/-- `ResetInventoryPollStats`: the stats are marked uninitialized. -/
def InventoryStats.resetInventoryPollStats (stats : InventoryStats) : InventoryStats :=
  { stats with initialized := false }

/-- `UpdateInventoryPollStats`, which `performInventorySync` calls with the error of the poll. Its
code is not in src/; only what the spec says of it is fixed: a poll that returns nil marks the
inventory initialized, whatever the flag was, and a failed poll records its error. -/
structure PollStatsUpdate where
  updateInventoryPollStats : Option GoError → InventoryStats → InventoryStats
  none_initialized : ∀ stats, (updateInventoryPollStats none stats).initialized = true
  none_withInitialized : ∀ stats b,
    updateInventoryPollStats none { stats with initialized := b } =
      updateInventoryPollStats none stats
  some_lastError : ∀ err stats, (updateInventoryPollStats (some err) stats).lastError = some err

/-- A poll that returns nil sets the flag a reset cleared. -/
@[simp] theorem PollStatsUpdate.none_resetInventoryPollStats (u : PollStatsUpdate)
    (stats : InventoryStats) :
    u.updateInventoryPollStats none stats.resetInventoryPollStats =
      u.updateInventoryPollStats none stats :=
  u.none_withInitialized stats false

/-- The stats update that marks the inventory initialized after every poll, failed or not, and
records the poll's error, nil included. -/
def PollStatsUpdate.recordEveryPoll : PollStatsUpdate :=
  ⟨fun err _ => ⟨true, err⟩, fun _ => rfl, fun _ _ => rfl, fun _ _ => rfl⟩

/-- The helpers of the Azure plugin that are not in src/: the query builders, and the update of
the poll stats. -/
structure PluginHelpers where
  /-- `convertSelectorToComputeQuery`: the query list of a selector for the given subscriptions,
  tenants and locations, or `none` when it cannot be built. -/
  convertSelectorToComputeQuery :
    CloudEntitySelector → List GoString → List GoString → List GoString → Option (List Query)
  /-- `getVMsBySubscriptionIDsAndTenantIDsAndLocationsMatchQuery`: the query of every VM of the
  given subscriptions, tenants and locations. -/
  getVMsBySubscriptionIDsAndTenantIDsAndLocationsMatchQuery :
    List GoString → List GoString → List GoString → Except GoError Query
  /-- `CloudServiceStats.UpdateInventoryPollStats`. -/
  pollStats : PollStatsUpdate

/-- `computeServiceConfig`. -/
structure ComputeServiceConfig where
  account : NamespacedName
  vnetAPIClient : AzureVirtualNetworksWrapper
  resourceGraphAPIClient : AzureResourceGraphWrapper
  resourcesCache : Option ComputeResourcesCacheSnapshot
  inventoryStats : InventoryStats
  credentials : AzureAccountConfig
  computeFilters : GoMap GoString (List Query)
  selectors : GoMap GoString CloudEntitySelector

/-- `newComputeServiceConfig`, once the clients are created: no snapshot, zero stats, no
filters. -/
def newComputeServiceConfig (account : NamespacedName) (vnetAPIClient : AzureVirtualNetworksWrapper)
    (resourceGraphAPIClient : AzureResourceGraphWrapper) (credentials : AzureAccountConfig) :
    ComputeServiceConfig :=
  ⟨account, vnetAPIClient, resourceGraphAPIClient, none, ⟨false, none⟩, credentials, ∅, ∅⟩

variable (H : PluginHelpers)

/-! ## The filter store -/

/-- The filters of `selector` compiled with the subscription, tenant and region of
`credentials`. -/
def compileSelector (selector : CloudEntitySelector) (credentials : AzureAccountConfig) :
    Option (List Query) :=
  H.convertSelectorToComputeQuery selector [credentials.SubscriptionID] [credentials.TenantID]
    [credentials.region]

/-- `AddResourceFilters`. -/
def addResourceFilters (computeCfg : ComputeServiceConfig) (selector : CloudEntitySelector) :
    ComputeServiceConfig × Option GoError :=
  match compileSelector H selector computeCfg.credentials with
  | some filters =>
    let key := selector.Namespace ++ '/' :: selector.Name
    ({ computeCfg with
        computeFilters := computeCfg.computeFilters.insert key filters
        selectors := computeCfg.selectors.insert key selector }, none)
  | none => (computeCfg, some "error creating resource query filters".toList)

theorem addResourceFilters_of_some {computeCfg : ComputeServiceConfig}
    {selector : CloudEntitySelector} {filters : List Query}
    (h : compileSelector H selector computeCfg.credentials = some filters) :
    addResourceFilters H computeCfg selector =
      ({ computeCfg with
        computeFilters := computeCfg.computeFilters.insert selector.namespacedName.string filters
        selectors := computeCfg.selectors.insert selector.namespacedName.string selector },
        none) := by
  simp only [addResourceFilters, h]
  rfl

theorem addResourceFilters_of_none {computeCfg : ComputeServiceConfig}
    {selector : CloudEntitySelector}
    (h : compileSelector H selector computeCfg.credentials = none) :
    addResourceFilters H computeCfg selector =
      (computeCfg, some "error creating resource query filters".toList) := by
  simp only [addResourceFilters, h]

/-- An `AddResourceFilters` that fails changes nothing. -/
theorem addResourceFilters_error {computeCfg : ComputeServiceConfig}
    {selector : CloudEntitySelector} (failed : (addResourceFilters H computeCfg selector).2.isSome) :
    (addResourceFilters H computeCfg selector).1 = computeCfg := by
  rcases h : compileSelector H selector computeCfg.credentials with _ | filters
  · rw [addResourceFilters_of_none H h]
  · simp [addResourceFilters_of_some H h] at failed

/-- `AddResourceFilters` never changes the credentials, the clients or the snapshot. -/
@[simp] theorem addResourceFilters_credentials (computeCfg : ComputeServiceConfig)
    (selector : CloudEntitySelector) :
    (addResourceFilters H computeCfg selector).1.credentials = computeCfg.credentials := by
  unfold addResourceFilters; split <;> rfl

@[simp] theorem addResourceFilters_account (computeCfg : ComputeServiceConfig)
    (selector : CloudEntitySelector) :
    (addResourceFilters H computeCfg selector).1.account = computeCfg.account := by
  unfold addResourceFilters; split <;> rfl

@[simp] theorem addResourceFilters_resourcesCache (computeCfg : ComputeServiceConfig)
    (selector : CloudEntitySelector) :
    (addResourceFilters H computeCfg selector).1.resourcesCache = computeCfg.resourcesCache := by
  unfold addResourceFilters; split <;> rfl

/-- Adding a selector twice adds it once: the second call compiles it with the same credentials
and writes the same entries. -/
theorem addResourceFilters_addResourceFilters (computeCfg : ComputeServiceConfig)
    (selector : CloudEntitySelector) :
    addResourceFilters H (addResourceFilters H computeCfg selector).1 selector =
      addResourceFilters H computeCfg selector := by
  rcases h : compileSelector H selector computeCfg.credentials with _ | filters
  · rw [addResourceFilters_of_none H h, addResourceFilters_of_none H h]
  · simp only [addResourceFilters, h, AList.insert_insert]

/-- `AddResourceFilters` of a selector leaves every other key's filter and selector as they
were. -/
theorem addResourceFilters_frame (computeCfg : ComputeServiceConfig)
    (selector : CloudEntitySelector) {k : GoString} (hk : k ≠ selector.namespacedName.string) :
    (addResourceFilters H computeCfg selector).1.computeFilters.lookup k =
        computeCfg.computeFilters.lookup k ∧
      (addResourceFilters H computeCfg selector).1.selectors.lookup k =
        computeCfg.selectors.lookup k := by
  rcases h : compileSelector H selector computeCfg.credentials with _ | filters
  · simp [addResourceFilters_of_none H h]
  · simp [addResourceFilters_of_some H h, AList.lookup_insert_ne hk]

/-- `RemoveResourceFilters`. -/
def removeResourceFilters (computeCfg : ComputeServiceConfig)
    (selectorNamespacedName : NamespacedName) : ComputeServiceConfig :=
  { computeCfg with
    computeFilters := computeCfg.computeFilters.erase selectorNamespacedName.string
    selectors := computeCfg.selectors.erase selectorNamespacedName.string }

/-- `RemoveResourceFilters` of a name leaves every other key's filter and selector as they were. -/
theorem removeResourceFilters_frame (computeCfg : ComputeServiceConfig)
    (selectorNamespacedName : NamespacedName) {k : GoString}
    (hk : k ≠ selectorNamespacedName.string) :
    (removeResourceFilters computeCfg selectorNamespacedName).computeFilters.lookup k =
        computeCfg.computeFilters.lookup k ∧
      (removeResourceFilters computeCfg selectorNamespacedName).selectors.lookup k =
        computeCfg.selectors.lookup k :=
  ⟨AList.lookup_erase_ne hk, AList.lookup_erase_ne hk⟩

theorem removeResourceFilters_removeResourceFilters (computeCfg : ComputeServiceConfig)
    (selectorNamespacedName : NamespacedName) :
    removeResourceFilters (removeResourceFilters computeCfg selectorNamespacedName)
        selectorNamespacedName = removeResourceFilters computeCfg selectorNamespacedName := by
  simp only [removeResourceFilters, GoMap.erase_erase_self]

/-- The loop of `UpdateServiceConfig`: re-add the selectors in `range` order, stopping at the
first error. -/
def reAddSelectors (computeCfg : ComputeServiceConfig) :
    List CloudEntitySelector → ComputeServiceConfig × Option GoError
  | [] => (computeCfg, none)
  | value :: rest =>
    match addResourceFilters H computeCfg value with
    | (computeCfg, some err) => (computeCfg, some err)
    | (computeCfg, none) => reAddSelectors computeCfg rest

/-- `UpdateServiceConfig`: the clients and credentials of `newConfig`, then every selector
re-added; `order` is the order `range` visits `selectors`. -/
def updateServiceConfig (computeCfg newConfig : ComputeServiceConfig)
    (order : List CloudEntitySelector) : ComputeServiceConfig × Option GoError :=
  reAddSelectors H { computeCfg with
    vnetAPIClient := newConfig.vnetAPIClient
    resourceGraphAPIClient := newConfig.resourceGraphAPIClient
    credentials := newConfig.credentials } order

/-- A selector that sits under its own key. -/
def SitsUnderOwnKey (computeCfg : ComputeServiceConfig) (selector : CloudEntitySelector) : Prop :=
  computeCfg.selectors.lookup selector.namespacedName.string = some selector

/-- Re-adding a selector that sits under its own key leaves the selectors as they were. -/
theorem addResourceFilters_selectors_of_own {computeCfg : ComputeServiceConfig}
    {selector : CloudEntitySelector} (own : SitsUnderOwnKey computeCfg selector) (k : GoString) :
    (addResourceFilters H computeCfg selector).1.selectors.lookup k =
      computeCfg.selectors.lookup k := by
  by_cases hk : k = selector.namespacedName.string
  · rcases h : compileSelector H selector computeCfg.credentials with _ | filters
    · simp [addResourceFilters_of_none H h]
    · subst hk
      simp only [addResourceFilters_of_some H h, AList.lookup_insert]
      exact own.symm
  · exact (addResourceFilters_frame H computeCfg selector hk).2

@[simp] theorem reAddSelectors_credentials (computeCfg : ComputeServiceConfig)
    (order : List CloudEntitySelector) :
    (reAddSelectors H computeCfg order).1.credentials = computeCfg.credentials := by
  induction order generalizing computeCfg with
  | nil => rfl
  | cons value rest ih =>
    simp only [reAddSelectors]
    rcases h : addResourceFilters H computeCfg value with ⟨cfg₁, _ | err⟩
    · simp only [ih, ← addResourceFilters_credentials H computeCfg value, h]
    · simp only [← addResourceFilters_credentials H computeCfg value, h]

/-- Re-adding selectors that sit under their own keys leaves the selectors as they were. -/
theorem reAddSelectors_selectors (order : List CloudEntitySelector)
    {computeCfg : ComputeServiceConfig} (own : ∀ sel ∈ order, SitsUnderOwnKey computeCfg sel)
    (k : GoString) :
    (reAddSelectors H computeCfg order).1.selectors.lookup k = computeCfg.selectors.lookup k := by
  induction order generalizing computeCfg with
  | nil => rfl
  | cons value rest ih =>
    have same := addResourceFilters_selectors_of_own H (own value (List.mem_cons_self _ _))
    simp only [reAddSelectors]
    rcases h : addResourceFilters H computeCfg value with ⟨cfg₁, _ | err⟩
    · rw [h] at same
      rw [ih (fun sel hsel => by
        rw [SitsUnderOwnKey, same]; exact own sel (List.mem_cons_of_mem _ hsel)), same]
    · rw [h] at same
      exact same k

/-- `UpdateServiceConfig` over selectors that sit under their own keys leaves the selectors as
they were. -/
theorem updateServiceConfig_selectors (computeCfg newConfig : ComputeServiceConfig)
    {order : List CloudEntitySelector} (own : ∀ sel ∈ order, SitsUnderOwnKey computeCfg sel)
    (k : GoString) :
    (updateServiceConfig H computeCfg newConfig order).1.selectors.lookup k =
      computeCfg.selectors.lookup k := by
  have own' : ∀ sel ∈ order, SitsUnderOwnKey { computeCfg with
      vnetAPIClient := newConfig.vnetAPIClient
      resourceGraphAPIClient := newConfig.resourceGraphAPIClient
      credentials := newConfig.credentials } sel := own
  exact reAddSelectors_selectors H order own' k

/-- The re-adding loop writes the filters of the keys of the selectors it visits, and only
those. -/
theorem reAddSelectors_filters_frame (order : List CloudEntitySelector)
    (computeCfg : ComputeServiceConfig) {k : GoString}
    (hk : ∀ sel ∈ order, k ≠ sel.namespacedName.string) :
    (reAddSelectors H computeCfg order).1.computeFilters.lookup k =
      computeCfg.computeFilters.lookup k := by
  induction order generalizing computeCfg with
  | nil => rfl
  | cons value rest ih =>
    have same := (addResourceFilters_frame H computeCfg value (hk value (List.mem_cons_self _ _))).1
    simp only [reAddSelectors]
    rcases h : addResourceFilters H computeCfg value with ⟨cfg₁, _ | err⟩
    · rw [h] at same
      rw [ih cfg₁ (fun sel hsel => hk sel (List.mem_cons_of_mem _ hsel)), same]
    · rw [h] at same
      exact same

/-- The keys of the filters after the re-adding loop: those before, and the keys it visits. -/
theorem reAddSelectors_mem_filters (order : List CloudEntitySelector)
    (computeCfg : ComputeServiceConfig) (k : GoString) :
    k ∈ (reAddSelectors H computeCfg order).1.computeFilters →
      k ∈ computeCfg.computeFilters ∨ ∃ sel ∈ order, k = sel.namespacedName.string := by
  by_cases hk : ∃ sel ∈ order, k = sel.namespacedName.string
  · exact fun _ => .inr hk
  · push_neg at hk
    rw [← AList.lookup_isSome, ← AList.lookup_isSome, reAddSelectors_filters_frame H order _ hk]
    exact .inl

/-- The re-adding loop only adds keys to the filters. -/
theorem mem_reAddSelectors_filters (order : List CloudEntitySelector)
    (computeCfg : ComputeServiceConfig) {k : GoString} (hk : k ∈ computeCfg.computeFilters) :
    k ∈ (reAddSelectors H computeCfg order).1.computeFilters := by
  induction order generalizing computeCfg with
  | nil => exact hk
  | cons value rest ih =>
    simp only [reAddSelectors]
    rcases h : compileSelector H value computeCfg.credentials with _ | filters
    · simp only [addResourceFilters_of_none H h]; exact hk
    · simp only [addResourceFilters_of_some H h]
      exact ih _ (AList.mem_insert _ |>.2 (.inr hk))

/-- The re-adding loop keeps every field that `AddResourceFilters` keeps. -/
theorem reAddSelectors_keeps {α : Type} (field : ComputeServiceConfig → α)
    (keeps : ∀ computeCfg selector, field (addResourceFilters H computeCfg selector).1 =
      field computeCfg)
    (computeCfg : ComputeServiceConfig) (order : List CloudEntitySelector) :
    field (reAddSelectors H computeCfg order).1 = field computeCfg := by
  induction order generalizing computeCfg with
  | nil => rfl
  | cons value rest ih =>
    simp only [reAddSelectors]
    rcases h : addResourceFilters H computeCfg value with ⟨cfg₁, _ | err⟩
    · simp only [ih, ← keeps computeCfg value, h]
    · simp only [← keeps computeCfg value, h]

/-- `UpdateServiceConfig` keeps the account. -/
@[simp] theorem updateServiceConfig_account (computeCfg newConfig : ComputeServiceConfig)
    (order : List CloudEntitySelector) :
    (updateServiceConfig H computeCfg newConfig order).1.account = computeCfg.account :=
  reAddSelectors_keeps H ComputeServiceConfig.account (addResourceFilters_account H) _ order

@[simp] theorem updateServiceConfig_resourcesCache (computeCfg newConfig : ComputeServiceConfig)
    (order : List CloudEntitySelector) :
    (updateServiceConfig H computeCfg newConfig order).1.resourcesCache =
      computeCfg.resourcesCache :=
  reAddSelectors_keeps H ComputeServiceConfig.resourcesCache (addResourceFilters_resourcesCache H)
    _ order

@[simp] theorem updateServiceConfig_credentials (computeCfg newConfig : ComputeServiceConfig)
    (order : List CloudEntitySelector) :
    (updateServiceConfig H computeCfg newConfig order).1.credentials = newConfig.credentials :=
  reAddSelectors_credentials H _ order

/-- `UpdateServiceConfig` only adds keys to the filters. -/
theorem mem_updateServiceConfig_filters (computeCfg newConfig : ComputeServiceConfig)
    (order : List CloudEntitySelector) {k : GoString} (hk : k ∈ computeCfg.computeFilters) :
    k ∈ (updateServiceConfig H computeCfg newConfig order).1.computeFilters :=
  mem_reAddSelectors_filters H order { computeCfg with
    vnetAPIClient := newConfig.vnetAPIClient
    resourceGraphAPIClient := newConfig.resourceGraphAPIClient
    credentials := newConfig.credentials } hk

/-- When the re-adding loop ends without error, every selector it visited, sitting under its own
key, is compiled there with the credentials. -/
theorem reAddSelectors_compiled (order : List CloudEntitySelector)
    {computeCfg : ComputeServiceConfig} (own : ∀ sel ∈ order, SitsUnderOwnKey computeCfg sel)
    (ok : (reAddSelectors H computeCfg order).2 = none) :
    ∀ sel ∈ order, (reAddSelectors H computeCfg order).1.computeFilters.lookup
      sel.namespacedName.string = compileSelector H sel computeCfg.credentials := by
  induction order generalizing computeCfg with
  | nil => simp
  | cons value rest ih =>
    have own₀ := own value (List.mem_cons_self _ _)
    rcases h : compileSelector H value computeCfg.credentials with _ | filters
    · simp [reAddSelectors, addResourceFilters_of_none H h] at ok
    have hadd := addResourceFilters_of_some H h
    have own₁ : ∀ sel ∈ rest, SitsUnderOwnKey (addResourceFilters H computeCfg value).1 sel :=
      fun sel hsel => by
        rw [SitsUnderOwnKey, addResourceFilters_selectors_of_own H own₀]
        exact own sel (List.mem_cons_of_mem _ hsel)
    simp only [reAddSelectors, hadd] at ok ⊢
    rw [hadd] at own₁
    intro sel hsel
    by_cases hrest : sel ∈ rest
    · rw [ih own₁ ok sel hrest]
    · obtain rfl : sel = value := by simpa [hrest] using hsel
      rw [reAddSelectors_filters_frame H rest _ fun sel' hsel' heq => hrest (by
        have hsame := own sel' (List.mem_cons_of_mem _ hsel')
        rw [SitsUnderOwnKey, ← heq, own₀] at hsame
        exact Option.some_injective _ hsame ▸ hsel')]
      simp [h]

/-- An `UpdateServiceConfig` that returns nil has compiled every selector it visited, sitting
under its own key, with the new credentials. -/
theorem updateServiceConfig_compiled (computeCfg newConfig : ComputeServiceConfig)
    {order : List CloudEntitySelector} (own : ∀ sel ∈ order, SitsUnderOwnKey computeCfg sel)
    (ok : (updateServiceConfig H computeCfg newConfig order).2 = none) :
    ∀ sel ∈ order, (updateServiceConfig H computeCfg newConfig order).1.computeFilters.lookup
      sel.namespacedName.string = compileSelector H sel newConfig.credentials := by
  have own' : ∀ sel ∈ order, SitsUnderOwnKey { computeCfg with
      vnetAPIClient := newConfig.vnetAPIClient
      resourceGraphAPIClient := newConfig.resourceGraphAPIClient
      credentials := newConfig.credentials } sel := own
  exact reAddSelectors_compiled H order own' ok

/-! ## The inventory poll -/

/-- The loop of `getComputeResourceFilters` over the filter lists in `range` order, with the
filters gathered so far: an empty list stands for every VM of the account's subscription,
tenant and region, and ends the loop with that query alone. -/
def rangeComputeFilters (credentials : AzureAccountConfig) (allFilters : List Query) :
    List (List Query) → List Query × Bool
  | [] => (allFilters, true)
  | filters :: rest =>
    if filters.isEmpty then
      match H.getVMsBySubscriptionIDsAndTenantIDsAndLocationsMatchQuery
          [credentials.SubscriptionID] [credentials.TenantID] [credentials.region] with
      | .error _ => ([], false)
      | .ok queryStr => ([queryStr], true)
    else rangeComputeFilters credentials (allFilters ++ filters) rest

/-- `getComputeResourceFilters`: the queries to run, and whether there are any; `order` is the
order `range` visits `computeFilters`. -/
def getComputeResourceFilters (computeCfg : ComputeServiceConfig) (order : List (List Query)) :
    List Query × Bool :=
  if computeCfg.computeFilters.entries.isEmpty then ([], false)
  else rangeComputeFilters H computeCfg.credentials [] order

/-- The loop of `getVirtualMachines`: run each query, stopping at the first error. -/
def queryVirtualMachines (client : AzureResourceGraphWrapper) (subscriptions : List GoString)
    (virtualMachines : List VirtualMachineTable) :
    List Query → Except GoError (List VirtualMachineTable)
  | [] => .ok virtualMachines
  | filter :: rest =>
    match client.getVirtualMachineTable filter subscriptions with
    | .error err => .error err
    | .ok virtualMachineRows => queryVirtualMachines client subscriptions
        (virtualMachines ++ virtualMachineRows) rest

/-- `getVirtualMachines`: no filters means no VMs and no cloud call. -/
def getVirtualMachines (computeCfg : ComputeServiceConfig) (order : List (List Query)) :
    Except GoError (List VirtualMachineTable) :=
  match getComputeResourceFilters H computeCfg order with
  | (_, false) => .ok []
  | (filters, true) =>
    queryVirtualMachines computeCfg.resourceGraphAPIClient [computeCfg.credentials.SubscriptionID]
      [] filters

/-- The loop of `DoResourceInventory` over the VM rows: each row stored under its lowercased ID,
and its vnet ID recorded. -/
def indexVirtualMachines :
    List VirtualMachineTable → GoMap GoString VirtualMachineTable → GoMap GoString Unit →
      GoMap GoString VirtualMachineTable × GoMap GoString Unit
  | [], vmIDToInfoMap, vnetIDs => (vmIDToInfoMap, vnetIDs)
  | vm :: rest, vmIDToInfoMap, vnetIDs =>
    indexVirtualMachines rest (vmIDToInfoMap.insert (Strings.toLower vm.ID) vm)
      (vnetIDs.insert vm.VnetID ())

/-- One peering of `buildMapVpcPeers`: the requester, destination and source IDs, lowercased,
empty when absent. -/
def peerEntry (properties : VirtualNetworkPropertiesFormat)
    (peerConn : VirtualNetworkPeering) : List GoString :=
  let first (space : Option AddressSpace) : GoString :=
    match space with
    | some ⟨prefix₀ :: _⟩ => Strings.toLower prefix₀
    | _ => []
  let requesterID := match peerConn.Properties with
    | some ⟨some remote, _⟩ => Strings.toLower remote
    | _ => []
  let destinationID := match peerConn.Properties with
    | some p => first p.RemoteAddressSpace
    | none => []
  [requesterID, destinationID, first properties.AddressSpace]

/-- One turn of the loop of `buildMapVpcPeers`: the peerings of a vnet with properties appended,
in order, to the list of its lowercased ID. -/
def addVpcPeers (vpcPeers : GoMap GoString (List (List GoString))) (result : VirtualNetwork) :
    GoMap GoString (List (List GoString)) :=
  match result.Properties with
  | none => vpcPeers
  | some properties =>
    properties.VirtualNetworkPeerings.foldl (fun vpcPeers peerConn =>
      let accepterID := Strings.toLower result.ID
      vpcPeers.insert accepterID
        ((vpcPeers.lookup accepterID).getD [] ++ [peerEntry properties peerConn]))
      vpcPeers

/-- `buildMapVpcPeers`: the peerings of every vnet, under its lowercased ID. -/
def buildMapVpcPeers (results : List VirtualNetwork) : GoMap GoString (List (List GoString)) :=
  results.foldl addVpcPeers ∅

/-- `DoResourceInventory`: the new state and the returned error. Every failure returns before the
snapshot is touched. -/
def doResourceInventory (computeCfg : ComputeServiceConfig) (order : List (List Query)) :
    ComputeServiceConfig × Option GoError :=
  match computeCfg.vnetAPIClient.listAllComplete with
  | .error err => (computeCfg, some err)
  | .ok vnets =>
    match getVirtualMachines H computeCfg order with
    | .error err => (computeCfg, some err)
    | .ok virtualMachines =>
      let vpcPeers := buildMapVpcPeers vnets
      let (vmIDToInfoMap, vnetIDs) := indexVirtualMachines virtualMachines ∅ ∅
      ({ computeCfg with resourcesCache := some ⟨vmIDToInfoMap, vnets, vnetIDs, vpcPeers⟩ }, none)

/-- A poll writes the snapshot and nothing else. -/
theorem doResourceInventory_eq (computeCfg : ComputeServiceConfig) (order : List (List Query)) :
    ∃ cache, (doResourceInventory H computeCfg order).1 =
      { computeCfg with resourcesCache := cache } := by
  unfold doResourceInventory
  split
  · exact ⟨computeCfg.resourcesCache, rfl⟩
  · split
    · exact ⟨computeCfg.resourcesCache, rfl⟩
    · exact ⟨_, rfl⟩

/-- `performInventorySync` of the Azure account config, which is not in src/: the compute service's
`DoResourceInventory`, whose error is then handed to `UpdateInventoryPollStats`, failure or
not. -/
def performInventorySync (computeCfg : ComputeServiceConfig) (order : List (List Query)) :
    ComputeServiceConfig × Option GoError :=
  let r := doResourceInventory H computeCfg order
  ({ r.1 with
      inventoryStats := H.pollStats.updateInventoryPollStats r.2 computeCfg.inventoryStats }, r.2)

@[simp] theorem performInventorySync_snd (computeCfg : ComputeServiceConfig)
    (order : List (List Query)) :
    (performInventorySync H computeCfg order).2 = (doResourceInventory H computeCfg order).2 :=
  rfl

@[simp] theorem performInventorySync_resourcesCache (computeCfg : ComputeServiceConfig)
    (order : List (List Query)) :
    (performInventorySync H computeCfg order).1.resourcesCache =
      (doResourceInventory H computeCfg order).1.resourcesCache :=
  rfl

/-- A poll through the account config writes the snapshot and the stats, and nothing else. -/
theorem performInventorySync_eq (computeCfg : ComputeServiceConfig) (order : List (List Query)) :
    ∃ cache, (performInventorySync H computeCfg order).1 =
      { computeCfg with
        resourcesCache := cache
        inventoryStats := H.pollStats.updateInventoryPollStats
          (doResourceInventory H computeCfg order).2 computeCfg.inventoryStats } := by
  obtain ⟨cache, h⟩ := doResourceInventory_eq H computeCfg order
  exact ⟨cache, by simp only [performInventorySync, h]⟩

/-- `ResetInventoryCache`: no snapshot, and the stats marked uninitialized. -/
def resetInventoryCache (computeCfg : ComputeServiceConfig) : ComputeServiceConfig :=
  { computeCfg with
    resourcesCache := none
    inventoryStats := computeCfg.inventoryStats.resetInventoryPollStats }

/-- `GetInventoryStats`. -/
def getInventoryStats (computeCfg : ComputeServiceConfig) : InventoryStats :=
  computeCfg.inventoryStats

/-! ## The read side -/

/-- `getManagedVnetIDs`: a copy of the snapshot's vnet IDs, empty without a snapshot. -/
def getManagedVnetIDs (computeCfg : ComputeServiceConfig) : GoMap GoString Unit :=
  match computeCfg.resourcesCache with
  | none => ∅
  | some snapshot => snapshot.vnetIDs

/-- `getCachedVirtualMachines`: the rows of the snapshot, in the order of the map's entries, one
order in which `range` may visit them; empty without a snapshot. -/
def getCachedVirtualMachines (computeCfg : ComputeServiceConfig) : List VirtualMachineTable :=
  match computeCfg.resourcesCache with
  | none => []
  | some snapshot => snapshot.virtualMachines.values

/-- `getManagedVnets`: the snapshot's vnets under their lowercased IDs; empty without a snapshot. -/
def getManagedVnets (computeCfg : ComputeServiceConfig) : GoMap GoString VirtualNetwork :=
  match computeCfg.resourcesCache with
  | none => ∅
  | some snapshot =>
    snapshot.vnets.foldl (fun vnetCopy vnet => vnetCopy.insert (Strings.toLower vnet.ID) vnet) ∅

/-- `getVnetPeers`: a copy of the peerings of `vnetID`, empty when it has none; nil (`none`)
without a snapshot. -/
def getVnetPeers (computeCfg : ComputeServiceConfig) (vnetID : GoString) :
    Option (List (List GoString)) :=
  match computeCfg.resourcesCache with
  | none => none
  | some snapshot => some ((snapshot.vnetPeers.lookup vnetID).getD [])

/-- What `GetVpcInventory` hands to `ComputeVpcToInternalVpcObject` for one vnet: the vnet, the
account's namespace and name, the lowercased region, and the managed flag. -/
structure VpcObject where
  vnet : VirtualNetwork
  AccountNamespace : GoString
  AccountName : GoString
  Region : GoString
  managed : Bool
  deriving DecidableEq, Repr

/-- One turn of the loop of `GetVpcInventory`: a vnet of the account's region becomes a VPC object
under its lowercased ID, flagged managed when that ID is one of `vnetIDs`. -/
def addVpcObject (computeCfg : ComputeServiceConfig) (vnetIDs : GoMap GoString Unit)
    (vpcMap : GoMap GoString VpcObject) (vpc : VirtualNetwork) : GoMap GoString VpcObject :=
  if Strings.equalFold vpc.Location computeCfg.credentials.region then
    let managed := decide (Strings.toLower vpc.ID ∈ vnetIDs)
    vpcMap.insert (Strings.toLower vpc.ID) ⟨vpc, computeCfg.account.Namespace,
      computeCfg.account.Name, Strings.toLower computeCfg.credentials.region, managed⟩
  else vpcMap

/-- `GetVpcInventory`: the VPC objects of the snapshot's vnets in the account's region, keyed by
lowercased ID; `none` without a snapshot. -/
def getVpcInventory (computeCfg : ComputeServiceConfig) : Option (GoMap GoString VpcObject) :=
  match computeCfg.resourcesCache with
  | none => none
  | some snapshot =>
    let vnetIDs := getManagedVnetIDs computeCfg
    some (snapshot.vnets.foldl (addVpcObject computeCfg vnetIDs) ∅)

@[simp] theorem getVpcInventory_isSome (computeCfg : ComputeServiceConfig) :
    (getVpcInventory computeCfg).isSome = computeCfg.resourcesCache.isSome := by
  unfold getVpcInventory; split <;> simp_all

end Nephe.Azure
