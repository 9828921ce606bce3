import ShapeCatalog.Catalog.Lookup
import ShapeCatalog.Proofs.TreeInvariant

/-!
Look-ups against the flat lists of nodes and operations.  Where the id of every resource goes on
with a dot from the id of the node above it, no node is lost by passing over a subtree whose id does
not start the id that is looked for, so that every look-up gives the first match.
-/

namespace ShapeCatalog

/-- The id of every resource right below a node goes on with a dot from the id of the node. -/
def Node.IdsNest (node : Node) : Prop :=
  ∀ resource ∈ node.resources, ∃ rest : String, resource.nodeId = node.id ++ "." ++ rest

/-- A catalog in which services are known by their short names, ids of resources go on from the ids
above them, and ids of operations go on from the short name of their service. -/
structure Catalog.IdsNest (catalog : Catalog) : Prop where
  services : ∀ service ∈ catalog.services, service.nodeId = service.shortName
  nodes : ∀ node ∈ catalog.nodes, node.IdsNest
  operations : ∀ service ∈ catalog.services, ∀ operation ∈ service.allOperations,
    ∃ rest : String, operation.operationId = service.shortName ++ "." ++ rest

theorem isBelow_trans {a b c : String} (hab : isBelow a b = true) (hbc : isBelow b c = true) :
    isBelow a c = true := by
  obtain ⟨first, rfl⟩ := isBelow_iff.mp hab
  obtain ⟨second, rfl⟩ := isBelow_iff.mp hbc
  exact isBelow_iff.mpr ⟨first ++ "." ++ second, by simp only [String.append_assoc]⟩

namespace Resource

mutual

/-- Everything below a resource has an id below every id that the resource's own lies below. -/
theorem isBelow_of_mem_family {ancestor : String} : (resource : Resource) →
    (∀ inner ∈ resource.family, (Node.resource inner).IdsNest) →
    isBelow ancestor resource.nodeId = true →
    ∀ inner ∈ resource.family, isBelow ancestor inner.nodeId = true
  | ⟨nodeId, name, resources, operations⟩, hnest, hbelow => by
      intro inner hinner
      rcases mem_family.mp hinner with rfl | hinner
      · exact hbelow
      · refine isBelow_of_mem_families resources ?_ ?_ inner hinner
        · exact fun other hother => hnest other (mem_family.mpr (Or.inr hother))
        · intro child hchild
          have hself := hnest ⟨nodeId, name, resources, operations⟩ (mem_family.mpr (Or.inl rfl))
          exact isBelow_trans hbelow (isBelow_iff.mpr (hself child hchild))

theorem isBelow_of_mem_families {ancestor : String} : (resources : List Resource) →
    (∀ inner ∈ families resources, (Node.resource inner).IdsNest) →
    (∀ child ∈ resources, isBelow ancestor child.nodeId = true) →
    ∀ inner ∈ families resources, isBelow ancestor inner.nodeId = true
  | [], _, _ => by
      intro inner hinner
      cases hinner
  | resource :: rest, hnest, hbelow => by
      intro inner hinner
      rw [families] at hnest hinner
      rcases List.mem_append.mp hinner with hinner | hinner
      · exact isBelow_of_mem_family resource
          (fun other hother => hnest other (List.mem_append_left _ hother))
          (hbelow resource List.mem_cons_self) inner hinner
      · exact isBelow_of_mem_families rest
          (fun other hother => hnest other (List.mem_append_right _ hother))
          (fun child hchild => hbelow child (List.mem_cons_of_mem resource hchild)) inner hinner

end

/-- What is not searched holds no match: an id in the families below a node lies
below the node's. -/
theorem find?_families_of_not_isBelow {ancestor id : String} {resources : List Resource}
    (hnest : ∀ inner ∈ families resources, (Node.resource inner).IdsNest)
    (hbelow : ∀ child ∈ resources, isBelow ancestor child.nodeId = true)
    (hid : ¬isBelow ancestor id = true) :
    (families resources).find? (fun inner => inner.nodeId = id) = none := by
  rw [List.find?_eq_none]
  intro inner hinner hmatch
  have hinnerBelow := isBelow_of_mem_families resources hnest hbelow inner hinner
  rw [of_decide_eq_true hmatch] at hinnerBelow
  exact hid hinnerBelow

mutual

theorem findNode?_eq_find? (id : String) : (resource : Resource) →
    (∀ inner ∈ resource.family, (Node.resource inner).IdsNest) →
    resource.findNode? id = resource.family.find? fun inner => inner.nodeId = id
  | ⟨nodeId, name, resources, operations⟩, hnest => by
      have hself := hnest ⟨nodeId, name, resources, operations⟩ (mem_family.mpr (Or.inl rfl))
      have hchildren : ∀ inner ∈ families resources, (Node.resource inner).IdsNest :=
        fun inner hinner => hnest inner (mem_family.mpr (Or.inr hinner))
      rw [findNode?, family, List.find?_cons]
      by_cases hid : nodeId = id
      · simp [hid]
      · by_cases hbelow : isBelow nodeId id = true
        · simp [hid, hbelow, findNodeIn?_eq_find? id resources hchildren]
        · have hnone := find?_families_of_not_isBelow hchildren
            (fun child hchild => isBelow_iff.mpr (hself child hchild)) hbelow
          simp [hid, hbelow, hnone]

theorem findNodeIn?_eq_find? (id : String) : (resources : List Resource) →
    (∀ inner ∈ families resources, (Node.resource inner).IdsNest) →
    findNodeIn? id resources = (families resources).find? fun inner => inner.nodeId = id
  | [], _ => rfl
  | resource :: rest, hnest => by
      rw [families] at hnest
      rw [findNodeIn?, families, List.find?_append,
        findNode?_eq_find? id resource
          fun inner hinner => hnest inner (List.mem_append_left _ hinner),
        findNodeIn?_eq_find? id rest
          fun inner hinner => hnest inner (List.mem_append_right _ hinner)]
      cases resource.family.find? _ <;> rfl

end

mutual

theorem findOperation?_eq_find? (id : String) : (resource : Resource) →
    resource.findOperation? id = Operation.find? id (resource.family.flatMap Resource.operations)
  | ⟨nodeId, name, resources, operations⟩ => by
      rw [findOperation?, family, List.flatMap_cons, findOperationIn?_eq_find? id resources,
        Operation.find?, Operation.find?, Operation.find?, List.find?_append]
      cases operations.find? _ <;> rfl

theorem findOperationIn?_eq_find? (id : String) : (resources : List Resource) →
    findOperationIn? id resources
      = Operation.find? id ((families resources).flatMap Resource.operations)
  | [] => rfl
  | resource :: rest => by
      rw [findOperationIn?, families, List.flatMap_append, findOperation?_eq_find? id resource,
        findOperationIn?_eq_find? id rest, Operation.find?, Operation.find?, Operation.find?,
        List.find?_append]
      cases List.find? _ (resource.family.flatMap Resource.operations) <;> rfl

end

end Resource

namespace Service

variable {service : Service}

theorem findNode?_eq_find? (id : String) (hnest : ∀ node ∈ service.nodes, node.IdsNest) :
    service.findNode? id = service.nodes.find? fun node => node.id = id := by
  have hself : (Node.service service).IdsNest := hnest _ List.mem_cons_self
  have hchildren : ∀ inner ∈ Resource.families service.resources,
      (Node.resource inner).IdsNest := by
    intro inner hinner
    exact hnest _ (List.mem_cons_of_mem _ (List.mem_map_of_mem hinner))
  have hfound : (service.allResources.map Node.resource).find? (fun node => node.id = id)
      = ((Resource.families service.resources).find? fun inner => inner.nodeId = id).map
        Node.resource :=
    List.find?_map
  rw [findNode?, nodes, List.find?_cons, hfound]
  by_cases hid : service.nodeId = id
  · simp [hid, Node.id]
  · by_cases hbelow : isBelow service.nodeId id = true
    · simp [hid, hbelow, Node.id, Resource.findNodeIn?_eq_find? id _ hchildren]
    · have hnone := Resource.find?_families_of_not_isBelow hchildren
        (fun child hchild => isBelow_iff.mpr (hself child hchild)) hbelow
      simp [hid, hbelow, Node.id, hnone]

theorem findOperation?_eq_find? (id : String) (service : Service) :
    service.findOperation? id = Operation.find? id service.allOperations := by
  rw [findOperation?, allOperations, allResources, Resource.findOperationIn?_eq_find?,
    Operation.find?, Operation.find?, Operation.find?, List.find?_append]
  cases service.operations.find? _ <;> rfl

end Service

/-- Items that are left out of a search and give nothing do not change what it finds. -/
theorem findSome?_filter {α β : Type} {f : α → Option β} {keep : α → Bool} {items : List α}
    (h : ∀ item ∈ items, ¬keep item = true → f item = none) :
    (items.filter keep).findSome? f = items.findSome? f := by
  induction items with
  | nil => rfl
  | cons first rest ih =>
      have hrest := ih fun item hitem => h item (List.mem_cons_of_mem first hitem)
      by_cases hkeep : keep first = true
      · rw [List.filter_cons_of_pos hkeep, List.findSome?_cons, List.findSome?_cons, hrest]
      · rw [List.filter_cons_of_neg hkeep, List.findSome?_cons, h first List.mem_cons_self hkeep,
          hrest]

namespace Catalog

variable {catalog : Catalog}

theorem findNode?_eq_find? (hnest : catalog.IdsNest) (id : String) :
    catalog.findNode? id = catalog.nodes.find? fun node => node.id = id := by
  rw [findNode?, nodes, List.find?_flatMap]
  refine findSome?_congr fun service hservice => ?_
  refine Service.findNode?_eq_find? id fun node hnode => ?_
  exact hnest.nodes node (List.mem_flatMap.mpr ⟨service, hservice, hnode⟩)

/-- A service that is not searched has no operation with the id: all its operations lie below its
short name. -/
theorem findOperation?_eq_find? (hnest : catalog.IdsNest) (id : String) :
    catalog.findOperation? id
      = catalog.operations.find? fun operation => operation.operationId = id := by
  rw [findOperation?, operations, List.find?_flatMap, findSome?_filter]
  · exact findSome?_congr fun service _ => Service.findOperation?_eq_find? id service
  · intro service hservice hbelow
    rw [Service.findOperation?_eq_find?, Operation.find?, List.find?_eq_none]
    intro operation hoperation hid
    obtain ⟨rest, hrest⟩ := hnest.operations service hservice operation hoperation
    rw [of_decide_eq_true hid] at hrest
    exact hbelow (isBelow_iff.mpr ⟨rest, hrest⟩)

theorem service_fits_of_ofModels {models : List Model} (h : Catalog.ofModels models = .ok catalog) :
    ∀ service ∈ catalog.services, service.nodeId = service.shortName ∧
      ∀ node ∈ service.nodes, node.Fits service.shortName := by
  obtain ⟨found, hfound, hservices⟩ := ofModels_eq_ok_iff_placed.mp h
  rw [hservices]
  refine of_mem_sortByName hfound fun placed service hmade => ?_
  obtain ⟨⟨hnodeId, hshortName⟩, hnodes⟩ := Model.fits_service hmade
  exact ⟨hnodeId.trans hshortName.symm, hnodes⟩

theorem idsNest_of_ofModels {models : List Model} (h : Catalog.ofModels models = .ok catalog) :
    catalog.IdsNest := by
  have hfits := service_fits_of_ofModels h
  refine ⟨fun service hservice => (hfits service hservice).1, ?_, ?_⟩
  · intro node hnode resource hresource
    obtain ⟨service, hservice, hnode⟩ := List.mem_flatMap.mp hnode
    exact ⟨resource.name, ((hfits service hservice).2 node hnode).resourceIds resource hresource⟩
  · intro service hservice operation hoperation
    have hnodes := (hfits service hservice).2
    have hfitsOperation : operation.Fits service.shortName := by
      rw [Service.allOperations, List.mem_append, List.mem_flatMap] at hoperation
      rcases hoperation with hown | ⟨resource, hresource, hbelow⟩
      · exact (hnodes _ List.mem_cons_self).operations operation hown
      · exact (hnodes _ (List.mem_cons_of_mem _ (List.mem_map_of_mem hresource))).operations
          operation hbelow
    exact ⟨operation.name, hfitsOperation.operationId⟩

/-- In every catalog whose ids nest, and so in every catalog that is made from models, looking up an
id gives the first node with it in preorder and the first operation with it, own operations before
those of resources; nothing is given exactly if the id does not occur. -/
theorem lookup_eq_first_match :
    (∀ models catalog, Catalog.ofModels models = .ok catalog → catalog.IdsNest) ∧
    ∀ catalog : Catalog, catalog.IdsNest → ∀ id,
      (catalog.findNode? id = catalog.nodes.find? (fun node => node.id = id) ∧
        (catalog.findNode? id = none ↔ ∀ node ∈ catalog.nodes, node.id ≠ id)) ∧
      (catalog.findOperation? id
          = catalog.operations.find? (fun operation => operation.operationId = id) ∧
        (catalog.findOperation? id = none ↔
          ∀ operation ∈ catalog.operations, operation.operationId ≠ id)) := by
  refine ⟨fun models catalog => idsNest_of_ofModels, ?_⟩
  intro catalog hnest id
  rw [findNode?_eq_find? hnest, findOperation?_eq_find? hnest]
  refine ⟨⟨rfl, ?_⟩, rfl, ?_⟩ <;> simp [List.find?_eq_none]

end Catalog

namespace Library

/-- Two services, the short name of the second of which goes on with a dot from that of the first,
and a resource of the first with the id of the second. -/
def overlapping : Catalog where
  services := [
    { nodeId := "lib"
      name := "Library"
      shortName := "lib"
      className := none
      resources := [⟨"lib.v2", "v2", [], [ping]⟩]
      operations := [] },
    { nodeId := "lib.v2"
      name := "Library"
      shortName := "lib.v2"
      className := none
      resources := [⟨"lib.v2.Shelf", "Shelf", [], []⟩]
      operations := [⟨"Ping", "lib.v2.Ping", "ping", none, .object []⟩] }]

theorem idsNest_overlapping : overlapping.IdsNest := by
  have hnodes : ∀ node ∈ overlapping.nodes, ∀ resource ∈ node.resources,
      isBelow node.id resource.nodeId = true := by decide
  have hoperations : ∀ service ∈ overlapping.services, ∀ operation ∈ service.allOperations,
      isBelow service.shortName operation.operationId = true := by decide
  refine ⟨by decide, ?_, ?_⟩
  · intro node hnode resource hresource
    exact isBelow_iff.mp (hnodes node hnode resource hresource)
  · intro service hservice operation hoperation
    exact isBelow_iff.mp (hoperations service hservice operation hoperation)

/-- The shelf and the operation of the second service are found although the search passes through
the first, whose short name starts their ids too. -/
theorem lookup_overlapping :
    (Catalog.ofModels [model] = .ok catalog ∧ catalog.IdsNest) ∧ overlapping.IdsNest ∧
      (overlapping.findNode? "lib.v2.Shelf"
          = overlapping.nodes.find? (fun node => node.id = "lib.v2.Shelf") ∧
        overlapping.findNode? "lib.v2.Shelf"
          = some (.resource ⟨"lib.v2.Shelf", "Shelf", [], []⟩)) ∧
      overlapping.findOperation? "lib.v2.Ping"
          = overlapping.operations.find? (fun operation => operation.operationId = "lib.v2.Ping") ∧
        overlapping.findOperation? "lib.v2.Ping"
          = some ⟨"Ping", "lib.v2.Ping", "ping", none, .object []⟩ := by
  have hmade := Catalog.lookup_eq_first_match.1 [model] catalog ofModels_model
  have hnode := Catalog.lookup_eq_first_match.2 overlapping idsNest_overlapping "lib.v2.Shelf"
  have hoperation := Catalog.lookup_eq_first_match.2 overlapping idsNest_overlapping "lib.v2.Ping"
  exact ⟨⟨ofModels_model, hmade⟩, idsNest_overlapping, ⟨hnode.1.1, by decide⟩, hoperation.2.1,
    by decide⟩

end Library

end ShapeCatalog
