import XdpFirewall.ControlPlane.RuntimeCidrs
import XdpFirewall.Lib.Traverse

/-!
# Discover — the networks that a Kubernetes cluster uses

`discover` lists the nodes and the ServiceCIDRs of the cluster, or its Services where the
ServiceCIDR API is not there, and collects their networks. It reads its lists one after the other,
so the cluster can change between them.
-/

namespace XdpFirewall
namespace Kubernetes

open ControlPlane Net

/-! ## The objects of a cluster -/

structure NodeAddress where
  type : String
  address : String
  deriving DecidableEq

structure NodeStatus where
  addresses : Option (List NodeAddress)
  deriving DecidableEq

structure NodeSpec where
  podCidr : Option String
  podCidrs : Option (List String)
  deriving DecidableEq

structure Node where
  status : Option NodeStatus
  spec : Option NodeSpec
  deriving DecidableEq

structure ServiceCidrSpec where
  cidrs : Option (List String)
  deriving DecidableEq

structure ServiceCidr where
  spec : Option ServiceCidrSpec
  deriving DecidableEq

structure ServiceSpec where
  clusterIp : Option String
  clusterIps : Option (List String)
  deriving DecidableEq

structure Service where
  spec : Option ServiceSpec
  deriving DecidableEq

/-- The lists that the API server answers with. -/
structure Cluster where
  nodes : List Node
  serviceCidrs : List ServiceCidr
  services : List Service
  deriving DecidableEq

/-- What the ServiceCIDR endpoint answers this service account. -/
inductive ServiceCidrApi
  | available
  | notFound
  | forbidden
  deriving DecidableEq

/-! ## Collecting networks -/

/-- The set `seen` holds what is in the list. -/
def insertUnique (cidrs : List IpNet) (cidr : IpNet) : List IpNet × Bool :=
  (RuntimeTrustedCidrs.pushUnseen cidrs cidr, !cidrs.contains cidr)

def ipToHostCidr (text : TextReaders) (value : String) : Except String (Option IpNet) :=
  if value.isEmpty ∨ value.toLower = "none" then
    .ok none
  else
    match text.ipAddr value with
    | none => .error ("invalid Kubernetes IP '" ++ value ++ "'")
    | some ip =>
        match IpNet.new? ip (if ip.isIpv4 then 32 else 128) with
        | none => .error "invalid prefix length"
        | some cidr => .ok (some cidr)

/-- `add_service_ip` -/
def addServiceIp (text : TextReaders) (cidrs : List IpNet) (value : String) :
    Except String (List IpNet × Nat) := do
  match ← ipToHostCidr text value with
  | none => .ok (cidrs, 0)
  | some cidr =>
      let (cidrs, inserted) := insertUnique cidrs cidr
      .ok (cidrs, inserted.toNat)

/-- A text that names a network; `label` is the kind of network that the error tells. -/
def insertCidr (text : TextReaders) (label : String) (cidrs : List IpNet) (value : String) :
    Except String (List IpNet × Nat) :=
  match text.ipNet value with
  | none => .error ("invalid Kubernetes " ++ label ++ " '" ++ value ++ "'")
  | some cidr =>
      let (cidrs, inserted) := insertUnique cidrs cidr
      .ok (cidrs, inserted.toNat)

/-- The loops over items: each adds its networks, and the numbers of new ones add up. -/
def addEach {A : Type} (add : List IpNet → A → Except String (List IpNet × Nat)) :
    List IpNet → List A → Except String (List IpNet × Nat)
  | cidrs, [] => .ok (cidrs, 0)
  | cidrs, item :: items => do
      let (cidrs, added) ← add cidrs item
      let (cidrs, count) ← addEach add cidrs items
      .ok (cidrs, added + count)

/-! ## Nodes -/

def addNodeAddresses (text : TextReaders) (cidrs : List IpNet) (node : Node) :
    Except String (List IpNet × Nat) :=
  match node.status with
  | none => .ok (cidrs, 0)
  | some status =>
      match status.addresses with
      | none => .ok (cidrs, 0)
      | some addresses =>
          addEach (fun cidrs address =>
            if address.type = "InternalIP" ∨ address.type = "ExternalIP" then
              addServiceIp text cidrs address.address
            else
              .ok (cidrs, 0)) cidrs addresses

/-- `podCIDR` is read only when `podCIDRs` has no item. -/
def addNodePodCidrs (text : TextReaders) (cidrs : List IpNet) (node : Node) :
    Except String (List IpNet × Nat) :=
  match node.spec with
  | none => .ok (cidrs, 0)
  | some spec =>
      match spec.podCidrs.getD [], spec.podCidr with
      | [], some value => insertCidr text "podCIDR" cidrs value
      | values, _ => addEach (insertCidr text "podCIDR") cidrs values

/-- The networks, and how many of them are new node addresses and new pod networks. -/
def addNodeRuntimeCidrs (text : TextReaders) :
    List IpNet → List Node → Except String (List IpNet × Nat × Nat)
  | cidrs, [] => .ok (cidrs, 0, 0)
  | cidrs, node :: nodes => do
      let (cidrs, addresses) ← addNodeAddresses text cidrs node
      let (cidrs, pods) ← addNodePodCidrs text cidrs node
      let (cidrs, nodeIps, podCidrs) ← addNodeRuntimeCidrs text cidrs nodes
      .ok (cidrs, addresses + nodeIps, pods + podCidrs)

/-! ## Services -/

def addServiceCidrs (text : TextReaders) (cidrs : List IpNet) (servicecidrs : List ServiceCidr) :
    Except String (List IpNet × Nat) :=
  addEach (fun cidrs servicecidr =>
    match servicecidr.spec.bind ServiceCidrSpec.cidrs with
    | none => .ok (cidrs, 0)
    | some values => addEach (insertCidr text "ServiceCIDR") cidrs values) cidrs servicecidrs

def addServiceClusterIps (text : TextReaders) (cidrs : List IpNet) (services : List Service) :
    Except String (List IpNet × Nat) :=
  addEach (fun cidrs service =>
    match service.spec with
    | none => .ok (cidrs, 0)
    | some spec =>
        addEach (addServiceIp text) cidrs (spec.clusterIps.getD [] ++ spec.clusterIp.toList))
    cidrs services

/-! ## Discovery -/

structure KubernetesRuntimeCidrs where
  cidrs : List IpNet
  nodeIps : Nat
  podCidrs : Nat
  serviceCidrs : Nat
  serviceCidrPartial : Bool
  deriving DecidableEq

/-- The last part of `discover`: what the nodes gave, and then the service networks. -/
def withServices (found : List IpNet × Nat × Nat) (serviceCidrPartial : Bool)
    (add : List IpNet → Except String (List IpNet × Nat)) :
    Except String KubernetesRuntimeCidrs := do
  let (cidrs, count) ← add found.1
  .ok
    { cidrs := cidrs
      nodeIps := found.2.1
      podCidrs := found.2.2
      serviceCidrs := count
      serviceCidrPartial := serviceCidrPartial }

/-- `discover_service_cidrs`, with the Services for an endpoint that is missing or forbidden. -/
def discoverServiceCidrs (text : TextReaders) (api : ServiceCidrApi) (cluster : Cluster)
    (found : List IpNet × Nat × Nat) : Except String KubernetesRuntimeCidrs :=
  match api with
  | .available =>
      withServices found false fun cidrs => addServiceCidrs text cidrs cluster.serviceCidrs
  | .notFound | .forbidden =>
      withServices found true fun cidrs => addServiceClusterIps text cidrs cluster.services

/-- What `discover` computes while the cluster does not change. -/
def discover (text : TextReaders) (api : ServiceCidrApi) (cluster : Cluster) :
    Except String KubernetesRuntimeCidrs := do
  let found ← addNodeRuntimeCidrs text [] cluster.nodes
  discoverServiceCidrs text api cluster found

/-! ## Discovery, request by request -/

/-- The request that `discover` makes next, with the nodes it has listed and what they gave. -/
inductive Discovering
  | nodes
  | serviceCidrs (listed : List Node) (found : List IpNet × Nat × Nat)
  | services (listed : List Node) (found : List IpNet × Nat × Nat)
  deriving DecidableEq

/-- What follows an answer: the next request, or the result with the lists it is made from. -/
inductive Answered
  | request (next : Discovering)
  | done (listed : Cluster) (result : Except String KubernetesRuntimeCidrs)

/-- The API server answers the request from the cluster as it is now. -/
def Discovering.answer (text : TextReaders) (api : ServiceCidrApi) (cluster : Cluster) :
    Discovering → Answered
  | .nodes =>
      match addNodeRuntimeCidrs text [] cluster.nodes with
      | .error e => .done cluster (.error e)
      | .ok found => .request (.serviceCidrs cluster.nodes found)
  | .serviceCidrs listed found =>
      match api with
      | .available =>
          .done { cluster with nodes := listed }
            (withServices found false fun cidrs =>
              addServiceCidrs text cidrs cluster.serviceCidrs)
      | .notFound | .forbidden => .request (.services listed found)
  | .services listed found =>
      .done { cluster with nodes := listed }
        (withServices found true fun cidrs => addServiceClusterIps text cidrs cluster.services)

/-- The nodes gave what is carried along, and the Services are requested only where the endpoint
of the ServiceCIDRs does not answer. -/
def Discovering.Faithful (text : TextReaders) (api : ServiceCidrApi) : Discovering → Prop
  | .nodes => True
  | .serviceCidrs listed found => addNodeRuntimeCidrs text [] listed = .ok found
  | .services listed found => addNodeRuntimeCidrs text [] listed = .ok found ∧ api ≠ .available

theorem faithful_of_answer {text : TextReaders} {api : ServiceCidrApi} {cluster : Cluster}
    {d next : Discovering} (hd : d.Faithful text api)
    (h : d.answer text api cluster = .request next) : next.Faithful text api := by
  cases d with
  | nodes =>
      rw [Discovering.answer] at h
      cases hfound : addNodeRuntimeCidrs text [] cluster.nodes with
      | error e =>
          rw [hfound] at h
          cases h
      | ok found =>
          rw [hfound] at h
          cases h
          exact hfound
  | serviceCidrs nodeList found =>
      cases api with
      | available => cases h
      | notFound =>
          cases h
          exact ⟨hd, nofun⟩
      | forbidden =>
          cases h
          exact ⟨hd, nofun⟩
  | services nodeList found => cases h

/-- A result is that of `discover` on the lists it is made from. -/
theorem discover_of_answer {text : TextReaders} {api : ServiceCidrApi} {cluster listed : Cluster}
    {d : Discovering} {result : Except String KubernetesRuntimeCidrs} (hd : d.Faithful text api)
    (h : d.answer text api cluster = .done listed result) :
    discover text api listed = result := by
  cases d with
  | nodes =>
      rw [Discovering.answer] at h
      cases hfound : addNodeRuntimeCidrs text [] cluster.nodes with
      | error e =>
          rw [hfound] at h
          cases h
          rw [discover, hfound]
          rfl
      | ok found =>
          rw [hfound] at h
          cases h
  | serviceCidrs nodeList found =>
      cases api with
      | available =>
          cases h
          rw [discover, show addNodeRuntimeCidrs text [] nodeList = .ok found from hd]
          rfl
      | notFound => cases h
      | forbidden => cases h
  | services nodeList found =>
      cases h
      obtain ⟨hfound, hapi⟩ := hd
      rw [discover, hfound]
      cases api with
      | available => exact absurd rfl hapi
      | notFound => rfl
      | forbidden => rfl

theorem serviceCidrPartial_of_discover {text : TextReaders} {api : ServiceCidrApi}
    {cluster : Cluster} {discovered : KubernetesRuntimeCidrs}
    (h : discover text api cluster = .ok discovered) :
    discovered.serviceCidrPartial = decide (api ≠ .available) := by
  obtain ⟨found, -, h⟩ := Lib.bind_ok_iff.mp h
  cases api with
  | available =>
      obtain ⟨_, -, h⟩ := Lib.bind_ok_iff.mp h
      cases h
      rfl
  | notFound =>
      obtain ⟨_, -, h⟩ := Lib.bind_ok_iff.mp h
      cases h
      rfl
  | forbidden =>
      obtain ⟨_, -, h⟩ := Lib.bind_ok_iff.mp h
      cases h
      rfl

/-! ## One target of the watches -/

inductive K8sTarget
  | nodes
  | services
  | serviceCidrs
  deriving DecidableEq

/-- The networks with those of this target's list added. -/
def networksOf (text : TextReaders) (cluster : Cluster) (cidrs : List IpNet) :
    K8sTarget → Except String (List IpNet)
  | .nodes => Prod.fst <$> addNodeRuntimeCidrs text cidrs cluster.nodes
  | .services => Prod.fst <$> addServiceClusterIps text cidrs cluster.services
  | .serviceCidrs => Prod.fst <$> addServiceCidrs text cidrs cluster.serviceCidrs

/-- The list that the service networks are read from. -/
def ServiceCidrApi.target : ServiceCidrApi → K8sTarget
  | .available => .serviceCidrs
  | .notFound | .forbidden => .services

theorem cidrs_withServices (found : List IpNet × Nat × Nat) (serviceCidrPartial : Bool)
    (add : List IpNet → Except String (List IpNet × Nat)) :
    KubernetesRuntimeCidrs.cidrs <$> withServices found serviceCidrPartial add =
      Prod.fst <$> add found.1 := by
  rw [withServices]
  cases add found.1 with
  | error e => rfl
  | ok added => rfl

/-- The networks that `discover` finds are those of its two lists, one after the other. -/
theorem cidrs_discover (text : TextReaders) (api : ServiceCidrApi) (cluster : Cluster) :
    KubernetesRuntimeCidrs.cidrs <$> discover text api cluster =
      (networksOf text cluster [] .nodes).bind
        fun cidrs => networksOf text cluster cidrs api.target := by
  rw [discover, networksOf]
  cases addNodeRuntimeCidrs text [] cluster.nodes with
  | error e => rfl
  | ok found =>
      cases api with
      | available =>
          exact cidrs_withServices found false
            fun cidrs => addServiceCidrs text cidrs cluster.serviceCidrs
      | notFound =>
          exact cidrs_withServices found true
            fun cidrs => addServiceClusterIps text cidrs cluster.services
      | forbidden =>
          exact cidrs_withServices found true
            fun cidrs => addServiceClusterIps text cidrs cluster.services

end Kubernetes
end XdpFirewall
