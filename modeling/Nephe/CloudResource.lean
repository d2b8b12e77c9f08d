import Nephe.Basic

/-!
# Cloud resource identities and their cloud-visible names

Package `cloudresource` names the security groups the controller owns in the cloud. A process-wide
controller prefix is set once at startup by `SetCloudResourcePrefix`; the two getters append the
role tag (`-ag-` for an address group, `-at-` for an applied-to group) and cache the result in a
package variable of their own. `GetCloudName` puts the lowercased group name after that prefix.

The package variables are explicit state here: every function that reads or writes them takes the
variables and returns them with its result.

## Main definitions

* `Nephe.CloudResourceGlobals` — the package variables `ControllerPrefix`,
  `ControllerAddressGroupPrefix` and `ControllerAppliedToPrefix`
* `Nephe.CloudResourceID.getCloudName` — `CloudResourceID.GetCloudName`
* `Nephe.CloudRuleDescription.string` — the description written on every cloud rule
* `Nephe.CloudResource.string` — `CloudResource.String()`, the type, name and VPC joined by `/`

## Main results

* `Nephe.CloudResourceID.getCloudName_fst` — a cloud name is the prefix, the role tag and the
  lowercased name
* `Nephe.CloudResourceID.getCloudName_separates_roles` — after `SetCloudResourcePrefix P` every
  cloud name starts with `P`, and two names agree exactly when the roles agree and the group names
  agree up to case
* `Nephe.CloudRuleDescription.string_eq_iff` — on names without `,` a rule description
  determines its policy
* `Nephe.CloudResource.string_eq_string_iff` — on types and names without `/`, `String()` determines the
  type, name and VPC of a resource, and not its account
-/

namespace Nephe

/-- The package variables of `cloudresource`. -/
structure CloudResourceGlobals where
  ControllerPrefix : GoString
  ControllerAddressGroupPrefix : GoString
  ControllerAppliedToPrefix : GoString
  deriving DecidableEq, Repr

/-- `SetCloudResourcePrefix`. -/
def setCloudResourcePrefix (CloudResourcePrefix : GoString) (g : CloudResourceGlobals) :
    CloudResourceGlobals :=
  { g with ControllerPrefix := CloudResourcePrefix }

/-- `GetControllerAddressGroupPrefix`: recomputes and caches `ControllerPrefix + "-ag-"`. -/
def getControllerAddressGroupPrefix (g : CloudResourceGlobals) : GoString × CloudResourceGlobals :=
  let p := g.ControllerPrefix ++ "-ag-".toList
  (p, { g with ControllerAddressGroupPrefix := p })

/-- `GetControllerAppliedToPrefix`: recomputes and caches `ControllerPrefix + "-at-"`. -/
def getControllerAppliedToPrefix (g : CloudResourceGlobals) : GoString × CloudResourceGlobals :=
  let p := g.ControllerPrefix ++ "-at-".toList
  (p, { g with ControllerAppliedToPrefix := p })

/-- `CloudResourceID`. -/
structure CloudResourceID where
  Name : GoString
  Vpc : GoString
  deriving DecidableEq, Repr

/-- The role tag a cloud name carries after the controller prefix. -/
def roleTag (membershipOnly : Bool) : GoString :=
  if membershipOnly then "-ag-".toList else "-at-".toList

namespace CloudResourceID

/-- `CloudResourceID.GetCloudName`: the address-group or applied-to prefix, then the lowercased
name. -/
def getCloudName (c : CloudResourceID) (membershipOnly : Bool) (g : CloudResourceGlobals) :
    GoString × CloudResourceGlobals :=
  if membershipOnly then
    let (p, g) := getControllerAddressGroupPrefix g
    (p ++ Strings.toLower c.Name, g)
  else
    let (p, g) := getControllerAppliedToPrefix g
    (p ++ Strings.toLower c.Name, g)

@[simp] theorem getCloudName_fst (c : CloudResourceID) (membershipOnly : Bool)
    (g : CloudResourceGlobals) :
    (c.getCloudName membershipOnly g).1 =
      g.ControllerPrefix ++ roleTag membershipOnly ++ Strings.toLower c.Name := by
  cases membershipOnly <;> rfl

@[simp] theorem getCloudName_controllerPrefix (c : CloudResourceID) (membershipOnly : Bool)
    (g : CloudResourceGlobals) :
    (c.getCloudName membershipOnly g).2.ControllerPrefix = g.ControllerPrefix := by
  cases membershipOnly <;> rfl

/-- The role tags differ in their third rune, so tagged names are equal only under equal tags. -/
theorem roleTag_append_inj {b₁ b₂ : Bool} {s₁ s₂ : GoString} :
    roleTag b₁ ++ s₁ = roleTag b₂ ++ s₂ ↔ b₁ = b₂ ∧ s₁ = s₂ := by
  cases b₁ <;> cases b₂ <;> simp [roleTag]

/-- After `SetCloudResourcePrefix P`, any cloud name and any cloud name computed after it: the
first starts with `P`, and the two are equal exactly when the roles are equal and the group names
are equal up to case. So an address group and an applied-to group never share a cloud name. -/
theorem getCloudName_separates_roles (g : CloudResourceGlobals) (P : GoString)
    (c₁ c₂ : CloudResourceID) (b₁ b₂ : Bool) :
    let named₁ := c₁.getCloudName b₁ (setCloudResourcePrefix P g)
    let name₂ := (c₂.getCloudName b₂ named₁.2).1
    P <+: named₁.1 ∧
      (named₁.1 = name₂ ↔ b₁ = b₂ ∧ Strings.toLower c₁.Name = Strings.toLower c₂.Name) := by
  simp only [getCloudName_fst, getCloudName_controllerPrefix, setCloudResourcePrefix,
    List.append_assoc, List.append_cancel_left_eq, roleTag_append_inj, List.prefix_append,
    and_self]

end CloudResourceID

/-- `CloudResourceID.String()`: the name and the VPC joined by `/`. -/
def CloudResourceID.string (c : CloudResourceID) : GoString :=
  c.Name ++ '/' :: c.Vpc

/-- `CloudResource`: a cloud resource of one account. The Go field `Type` is `ResourceType`. -/
structure CloudResource where
  ResourceType : GoString
  CloudResourceID : CloudResourceID
  AccountID : GoString
  CloudProvider : GoString
  deriving DecidableEq, Repr

namespace CloudResource

/-- `CloudResource.String()`: the type and `CloudResourceID.String()` joined by `/`. -/
def string (c : CloudResource) : GoString :=
  c.ResourceType ++ '/' :: c.CloudResourceID.string

/-- When neither the type nor the name holds a `/`, `String()` of a cloud resource gives back its
type, name and VPC, and nothing else: two resources print alike exactly when those agree, whatever
their accounts and providers. The VPC may hold `/`, as the IDs of Azure vnets do. -/
theorem string_eq_string_iff {r₁ r₂ : CloudResource}
    (h₁ : '/' ∉ r₁.ResourceType ∧ '/' ∉ r₁.CloudResourceID.Name)
    (h₂ : '/' ∉ r₂.ResourceType ∧ '/' ∉ r₂.CloudResourceID.Name) :
    r₁.string = r₂.string ↔
      r₁.ResourceType = r₂.ResourceType ∧ r₁.CloudResourceID = r₂.CloudResourceID := by
  rcases r₁ with ⟨t₁, ⟨n₁, v₁⟩, _, _⟩
  rcases r₂ with ⟨t₂, ⟨n₂, v₂⟩, _, _⟩
  simp only [string, CloudResourceID.string, Strings.append_cons_inj h₁.1 h₂.1,
    Strings.append_cons_inj h₁.2 h₂.2, CloudResourceID.mk.injEq]

/-- The VM `vm01` of an Azure vnet, in two accounts: `String()` does not tell them apart. -/
theorem string_eq_iff_two_accounts :
    ('/' ∉ "VirtualMachine".toList ∧ '/' ∉ "vm01".toList) ∧
      (((⟨"VirtualMachine".toList, ⟨"vm01".toList, "/subscriptions/sub01/vnet01".toList⟩,
            "default/account01".toList, "Azure".toList⟩ : CloudResource).string =
          (⟨"VirtualMachine".toList, ⟨"vm01".toList, "/subscriptions/sub01/vnet01".toList⟩,
            "default/account02".toList, "Azure".toList⟩ : CloudResource).string) ↔
        "VirtualMachine".toList = "VirtualMachine".toList ∧
          (⟨"vm01".toList, "/subscriptions/sub01/vnet01".toList⟩ : Nephe.CloudResourceID) =
            ⟨"vm01".toList, "/subscriptions/sub01/vnet01".toList⟩) :=
  have h : '/' ∉ "VirtualMachine".toList ∧ '/' ∉ "vm01".toList := by decide
  ⟨h, string_eq_string_iff h h⟩

end CloudResource

/-- `CloudRuleDescription`: the policy a cloud rule belongs to. -/
structure CloudRuleDescription where
  Name : GoString
  Namespace : GoString
  deriving DecidableEq, Repr

namespace CloudRuleDescription

/-- `CloudRuleDescription.String()`: `Name:<name>, Ns:<namespace>`, from the package constants
`Name = "Name"` and `Namespace = "Ns"`. -/
def string (r : CloudRuleDescription) : GoString :=
  "Name".toList ++ ':' :: r.Name ++ ", ".toList ++ "Ns".toList ++ ':' :: r.Namespace

/-- The description is a fixed prefix, the name, and the rest after the name's first `,`. -/
theorem string_eq (r : CloudRuleDescription) :
    r.string = "Name:".toList ++ r.Name ++ ',' :: (" Ns:".toList ++ r.Namespace) := by
  simp only [string, List.append_assoc, List.cons_append]
  rfl

/-- On policy names without `,` the description determines the policy: two descriptions are
equal exactly when the names and the namespaces are. -/
theorem string_eq_iff {n₁ ns₁ n₂ ns₂ : GoString} (h₁ : ',' ∉ n₁) (h₂ : ',' ∉ n₂) :
    (⟨n₁, ns₁⟩ : CloudRuleDescription).string = (⟨n₂, ns₂⟩ : CloudRuleDescription).string ↔
      n₁ = n₂ ∧ ns₁ = ns₂ := by
  rw [string_eq, string_eq, List.append_assoc, List.append_assoc, List.append_cancel_left_eq,
    Strings.append_cons_inj h₁ h₂, List.append_cancel_left_eq]

theorem string_eq_iff_allow_web :
    ',' ∉ "allow-web".toList ∧ ',' ∉ "allow-db".toList ∧
      ((⟨"allow-web".toList, "default".toList⟩ : CloudRuleDescription).string =
          (⟨"allow-db".toList, "default".toList⟩ : CloudRuleDescription).string ↔
        "allow-web".toList = "allow-db".toList ∧ "default".toList = "default".toList) :=
  ⟨by decide, by decide, string_eq_iff (by decide) (by decide)⟩

/-- Without the condition on names the description does not determine the policy: a name
holding `, Ns:` can shift text between the name and the namespace. -/
theorem string_not_injective :
    ∃ r₁ r₂ : CloudRuleDescription, r₁ ≠ r₂ ∧ r₁.string = r₂.string :=
  ⟨⟨"web, Ns:prod".toList, "x".toList⟩, ⟨"web".toList, "prod, Ns:x".toList⟩, by decide,
    by decide⟩

end CloudRuleDescription

end Nephe
