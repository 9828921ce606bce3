import Mathlib.Data.List.Nodup
import ShapeCatalog.Proofs.FirstMatch
import ShapeCatalog.Proofs.OrderIndependence

/-!
When ids identify nodes.  The id of a node is made of the names on the way to it, with dots in
between, and nothing keeps two of them from being the same: a resource may be referred to twice, and
a document may hold two services.  Where the names of siblings are apart at every level, so are the
ids of all nodes, and every node is found by its id.
-/

namespace ShapeCatalog

/-- Two names neither of which is the other, or goes on with a dot from the other. -/
def Apart (a b : String) : Prop :=
  a ≠ b ∧ ¬isBelow a b = true ∧ ¬isBelow b a = true

instance (a b : String) : Decidable (Apart a b) :=
  inferInstanceAs (Decidable (_ ∧ _))

/-- Whether an id is another, or lies below it. -/
def IsAtOrBelow (ancestor id : String) : Prop :=
  id = ancestor ∨ isBelow ancestor id = true

theorem isAtOrBelow_of_append {a b : String} {more rest rest' : List Char}
    (hb : b.toList = a.toList ++ more) (hrest : '.' :: rest = more ++ '.' :: rest') :
    IsAtOrBelow a b := by
  cases more with
  | nil => exact Or.inl (String.toList_injective (by simpa using hb))
  | cons dot more =>
      have hdot : '.' = dot := (List.cons.inj hrest).1
      apply Or.inr
      exact isBelow_iff.mpr ⟨String.ofList more, String.toList_injective (by simp [hb, ← hdot])⟩

theorem not_isAtOrBelow_of_apart {a b : String} (h : Apart a b) : ¬IsAtOrBelow a b := by
  rintro (heq | hbelow)
  · exact h.1 heq.symm
  · exact h.2.1 hbelow

theorem Apart.symm {a b : String} (h : Apart a b) : Apart b a :=
  ⟨h.1.symm, h.2.2, h.2.1⟩

/-- Ids that start the same id are not apart: the longer of them starts with the shorter. -/
theorem not_apart_of_isAtOrBelow {a b id : String} (ha : IsAtOrBelow a id)
    (hb : IsAtOrBelow b id) : ¬Apart a b := by
  intro happart
  rcases ha with rfl | ha
  · exact not_isAtOrBelow_of_apart happart.symm hb
  rcases hb with rfl | hb
  · exact not_isAtOrBelow_of_apart happart (Or.inr ha)
  obtain ⟨rest, rfl⟩ := isBelow_iff.mp ha
  obtain ⟨rest', heq⟩ := isBelow_iff.mp hb
  have hlists := congrArg String.toList heq
  simp only [String.toList_append, List.append_assoc] at hlists
  rcases List.append_eq_append_iff.mp hlists with ⟨more, hlonger, hrest⟩ | ⟨more, hlonger, hrest⟩
  · exact not_isAtOrBelow_of_apart happart (isAtOrBelow_of_append hlonger hrest)
  · exact not_isAtOrBelow_of_apart happart.symm (isAtOrBelow_of_append hlonger hrest)

/-- Names under the same parent are apart if the ids made of them are. -/
theorem apart_append_iff {parentId a b : String} :
    Apart (parentId ++ "." ++ a) (parentId ++ "." ++ b) ↔ Apart a b := by
  have hbelow : ∀ {a b : String},
      isBelow (parentId ++ "." ++ a) (parentId ++ "." ++ b) = isBelow a b := by
    intro a b
    rw [Bool.eq_iff_iff, isBelow, isBelow, List.isPrefixOf_iff_prefix, List.isPrefixOf_iff_prefix]
    simp only [String.toList_append, List.append_assoc, List.prefix_append_right_inj]
  have hne : parentId ++ "." ++ a ≠ parentId ++ "." ++ b ↔ a ≠ b := by
    simp [← String.toList_inj]
  rw [Apart, Apart, hbelow, hbelow, hne]

/-- Ids in groups are distinct only if the groups have distinct first ids. -/
theorem nodup_map_of_nodup_flatMap {α : Type} {groups : List α} {root : α → String}
    {ids : α → List String} (hroot : ∀ group ∈ groups, root group ∈ ids group)
    (h : (groups.flatMap ids).Nodup) : (groups.map root).Nodup := by
  rw [List.Nodup, List.pairwise_map]
  refine (List.nodup_flatMap.mp h).2.imp_of_mem ?_
  intro group other hgroup hother hdisjoint heq
  exact hdisjoint (hroot group hgroup) (heq ▸ hroot other hother)

/-- Ids in groups are distinct if they are in each group, and the groups lie below ids
that are apart. -/
theorem nodup_flatMap_of_apart {α : Type} {groups : List α} {root : α → String}
    {ids : α → List String} (hapart : (groups.map root).Pairwise Apart)
    (hbelow : ∀ group ∈ groups, ∀ id ∈ ids group, IsAtOrBelow (root group) id)
    (hnodup : ∀ group ∈ groups, (ids group).Nodup) : (groups.flatMap ids).Nodup := by
  rw [List.nodup_flatMap]
  refine ⟨hnodup, ?_⟩
  rw [List.pairwise_map] at hapart
  refine hapart.imp_of_mem ?_
  intro group other hgroup hother happart id hid hid'
  exact not_apart_of_isAtOrBelow (hbelow group hgroup id hid) (hbelow other hother id hid') happart

theorem not_isBelow_self (id : String) : ¬isBelow id id = true := by
  intro hbelow
  obtain ⟨rest, heq⟩ := isBelow_iff.mp hbelow
  have hlength := congrArg String.length heq
  simp only [String.length_append] at hlength
  have hdot : ".".length = 1 := rfl
  omega

namespace Resource

theorem families_eq_flatMap (resources : List Resource) :
    families resources = resources.flatMap family := by
  induction resources with
  | nil => rfl
  | cons resource rest ih => rw [families, ih, List.flatMap_cons]

theorem family_eq_cons (resource : Resource) :
    resource.family = resource :: families resource.resources := by
  cases resource
  rw [family]

end Resource

namespace Node

/-- The ids of a node and of everything below it, the node's first. -/
def idsBelow (node : Node) : List String :=
  node.id :: (Resource.families node.resources).map Resource.nodeId

theorem idsBelow_eq_cons (node : Node) :
    node.idsBelow = node.id :: node.resources.flatMap fun child => (resource child).idsBelow := by
  rw [idsBelow, Resource.families_eq_flatMap, List.map_flatMap]
  congr 2
  funext child
  rw [Resource.family_eq_cons]
  rfl

theorem id_mem_idsBelow (node : Node) : node.id ∈ node.idsBelow :=
  List.mem_cons_self

/-- The ids of the resources right below a node go on from the id of the node, and are apart. -/
structure ChildrenApart (node : Node) : Prop where
  nests : node.IdsNest
  apart : (node.resources.map Resource.nodeId).Pairwise Apart

/-- At a node and at everything below it, the ids of children go on from the id above
and are apart. -/
structure TreeApart (node : Node) : Prop where
  self : node.ChildrenApart
  below : ∀ inner ∈ Resource.families node.resources, (resource inner).ChildrenApart

namespace TreeApart

variable {node : Node} (h : node.TreeApart)

include h

theorem child {child : Resource} (hchild : child ∈ node.resources) :
    (resource child).TreeApart := by
  have hmem : ∀ inner ∈ child.family, inner ∈ Resource.families node.resources := by
    intro inner hinner
    exact Resource.mem_families.mpr ⟨child, hchild, hinner⟩
  constructor
  · exact h.below child (hmem child (Resource.mem_family.mpr (Or.inl rfl)))
  · intro inner hinner
    exact h.below inner (hmem inner (Resource.mem_family.mpr (Or.inr hinner)))

theorem isAtOrBelow {id : String} (hid : id ∈ node.idsBelow) : IsAtOrBelow node.id id := by
  rw [idsBelow, List.mem_cons, List.mem_map] at hid
  rcases hid with rfl | ⟨inner, hinner, rfl⟩
  · exact Or.inl rfl
  · refine Or.inr (Resource.isBelow_of_mem_families node.resources ?_ ?_ inner hinner)
    · intro other hother
      exact (h.below other hother).nests
    · intro child hchild
      exact isBelow_iff.mpr (h.self.nests child hchild)

/-- The ids at and below a node are distinct if those at and below each child are. -/
theorem nodup_of_children
    (hchildren : ∀ child ∈ node.resources, (resource child).idsBelow.Nodup) :
    node.idsBelow.Nodup := by
  rw [idsBelow_eq_cons, List.nodup_cons]
  constructor
  · intro hmem
    obtain ⟨child, hchild, hid⟩ := List.mem_flatMap.mp hmem
    have hdown := isBelow_iff.mpr (h.self.nests child hchild)
    rcases (h.child hchild).isAtOrBelow hid with hself | hlower
    · have heq : child.nodeId = node.id := hself.symm
      rw [heq] at hdown
      exact not_isBelow_self _ hdown
    · exact not_isBelow_self _ (isBelow_trans hdown hlower)
  · apply nodup_flatMap_of_apart h.self.apart
    · intro child hchild id hid
      exact (h.child hchild).isAtOrBelow hid
    · exact hchildren

theorem nodup : node.idsBelow.Nodup := by
  have hresource : ∀ inner : Resource, (resource inner).TreeApart →
      (resource inner).idsBelow.Nodup := by
    intro inner hinner
    induction inner using Resource.inductOn with
    | step inner ih =>
        apply hinner.nodup_of_children
        intro child hchild
        exact ih child hchild (hinner.child hchild)
  apply h.nodup_of_children
  intro child hchild
  exact hresource child (h.child hchild)

end TreeApart

theorem nodup_ids_of_nodup_idsBelow {node : Node} (h : node.idsBelow.Nodup) :
    (node.resources.map Resource.nodeId).Nodup ∧
      ∀ child ∈ node.resources, (resource child).idsBelow.Nodup := by
  rw [idsBelow_eq_cons, List.nodup_cons] at h
  constructor
  · apply nodup_map_of_nodup_flatMap _ h.2
    intro child _
    exact id_mem_idsBelow (resource child)
  · exact (List.nodup_flatMap.mp h.2).1

theorem nodup_ids_below_of_nodup {node : Node} (h : node.idsBelow.Nodup) :
    ∀ inner ∈ Resource.families node.resources, (inner.resources.map Resource.nodeId).Nodup := by
  have hfamily : ∀ child : Resource, (resource child).idsBelow.Nodup →
      ∀ inner ∈ child.family, (inner.resources.map Resource.nodeId).Nodup := by
    intro child hchild
    induction child using Resource.inductOn with
    | step child ih =>
        obtain ⟨hself, hbelow⟩ := nodup_ids_of_nodup_idsBelow hchild
        intro inner hinner
        rcases Resource.mem_family.mp hinner with rfl | hinner
        · exact hself
        · obtain ⟨lower, hlower, hinner⟩ := Resource.mem_families.mp hinner
          exact ih lower hlower (hbelow lower hlower) inner hinner
  intro inner hinner
  obtain ⟨child, hchild, hinner⟩ := Resource.mem_families.mp hinner
  exact hfamily child ((nodup_ids_of_nodup_idsBelow h).2 child hchild) inner hinner

end Node

theorem Node.Fits.map_nodeId {shortName : String} {node : Node} (h : node.Fits shortName) :
    node.resources.map Resource.nodeId
      = (node.resources.map Resource.name).map fun name => node.id ++ "." ++ name := by
  rw [List.map_map]
  apply List.map_congr_left
  exact h.resourceIds

theorem Node.Fits.childrenApart {shortName : String} {node : Node} (h : node.Fits shortName)
    (hapart : (node.resources.map Resource.name).Pairwise Apart) : node.ChildrenApart := by
  constructor
  · intro child hchild
    exact ⟨child.name, h.resourceIds child hchild⟩
  · rw [h.map_nodeId, List.pairwise_map]
    exact hapart.imp apart_append_iff.mpr

/-- Among items with distinct keys, the first with the key of an item is that item. -/
theorem find?_eq_some_of_nodup {α : Type} {key : α → String} {items : List α} {item : α}
    (hnodup : (items.map key).Nodup) (hitem : item ∈ items) :
    items.find? (fun other => key other = key item) = some item := by
  obtain ⟨before, after, rfl⟩ := List.append_of_mem hitem
  rw [List.map_append, List.map_cons, List.nodup_append] at hnodup
  rw [List.find?_eq_some_iff_append]
  refine ⟨decide_eq_true rfl, before, after, rfl, ?_⟩
  intro earlier hearlier
  have hne := hnodup.2.2 (key earlier) (List.mem_map_of_mem hearlier) (key item) List.mem_cons_self
  simp [hne]

namespace Catalog

variable {catalog : Catalog}

/-- The names of siblings are apart: those of the resources right below any node, and the short
names of the services. -/
structure SiblingsApart (catalog : Catalog) : Prop where
  services : (catalog.services.map Service.shortName).Pairwise Apart
  resources : ∀ node ∈ catalog.nodes, (node.resources.map Resource.name).Pairwise Apart

/-- No two resources right below a node share a name, and no two services share a short name. -/
structure SiblingsDistinct (catalog : Catalog) : Prop where
  services : (catalog.services.map Service.shortName).Nodup
  resources : ∀ node ∈ catalog.nodes, (node.resources.map Resource.name).Nodup

theorem map_id_nodes (catalog : Catalog) : catalog.nodes.map Node.id
    = catalog.services.flatMap fun service => (Node.service service).idsBelow := by
  rw [nodes, List.map_flatMap]
  congr 1
  funext service
  rw [Service.nodes, Service.allResources, List.map_cons, List.map_map]
  rfl

theorem mem_nodes {node : Node} : node ∈ catalog.nodes ↔ ∃ service ∈ catalog.services,
    node = .service service ∨ ∃ inner ∈ Resource.families service.resources,
      node = .resource inner := by
  simp only [nodes, List.mem_flatMap, Service.nodes, Service.allResources, List.mem_cons,
    List.mem_map, eq_comm]

theorem treeApart_of_siblingsApart {models : List Model}
    (h : Catalog.ofModels models = .ok catalog) (hapart : catalog.SiblingsApart)
    {service : Service} (hservice : service ∈ catalog.services) :
    (Node.service service).TreeApart := by
  have hfits := (service_fits_of_ofModels h service hservice).2
  constructor
  · apply (hfits _ List.mem_cons_self).childrenApart
    exact hapart.resources _ (mem_nodes.mpr ⟨service, hservice, Or.inl rfl⟩)
  · intro inner hinner
    apply (hfits _ (List.mem_cons_of_mem _ (List.mem_map_of_mem hinner))).childrenApart
    exact hapart.resources _ (mem_nodes.mpr ⟨service, hservice, Or.inr ⟨inner, hinner, rfl⟩⟩)

theorem nodup_ids_of_siblingsApart {models : List Model}
    (h : Catalog.ofModels models = .ok catalog) (hapart : catalog.SiblingsApart) :
    (catalog.nodes.map Node.id).Nodup := by
  rw [map_id_nodes]
  apply nodup_flatMap_of_apart hapart.services
  · intro service hservice id hid
    rw [← (service_fits_of_ofModels h service hservice).1]
    exact (treeApart_of_siblingsApart h hapart hservice).isAtOrBelow hid
  · intro service hservice
    exact (treeApart_of_siblingsApart h hapart hservice).nodup

/-- Names that siblings share make ids that nodes share. -/
theorem siblingsDistinct_of_nodup_ids {models : List Model}
    (h : Catalog.ofModels models = .ok catalog) (hnodup : (catalog.nodes.map Node.id).Nodup) :
    catalog.SiblingsDistinct := by
  rw [map_id_nodes] at hnodup
  constructor
  · apply nodup_map_of_nodup_flatMap _ hnodup
    intro service hservice
    rw [← (service_fits_of_ofModels h service hservice).1]
    exact Node.id_mem_idsBelow (.service service)
  · intro node hnode
    obtain ⟨service, hservice, hbelow⟩ := mem_nodes.mp hnode
    have hids := (List.nodup_flatMap.mp hnodup).1 service hservice
    have hfits := (service_fits_of_ofModels h service hservice).2
    rcases hbelow with rfl | ⟨inner, hinner, rfl⟩
    · have hchildren := (Node.nodup_ids_of_nodup_idsBelow hids).1
      rw [(hfits _ List.mem_cons_self).map_nodeId] at hchildren
      exact hchildren.of_map
    · have hchildren := Node.nodup_ids_below_of_nodup hids inner hinner
      have hinnerFits := hfits _ (List.mem_cons_of_mem _ (List.mem_map_of_mem hinner))
      change ((Node.resource inner).resources.map Resource.nodeId).Nodup at hchildren
      rw [hinnerFits.map_nodeId] at hchildren
      exact hchildren.of_map

/-- Where the names of siblings are apart at every level of a catalog that is made, no two nodes
share an id, and every node is what looking up its id gives.  Where no two nodes share an id, no
siblings share a name. -/
theorem distinct_ids_of_ofModels {models : List Model} (h : Catalog.ofModels models = .ok catalog) :
    (catalog.SiblingsApart → (catalog.nodes.map Node.id).Nodup ∧
      ∀ node ∈ catalog.nodes, catalog.findNode? node.id = some node) ∧
    ((catalog.nodes.map Node.id).Nodup → catalog.SiblingsDistinct) := by
  constructor
  · intro hapart
    have hnodup := nodup_ids_of_siblingsApart h hapart
    refine ⟨hnodup, ?_⟩
    intro node hnode
    rw [findNode?_eq_find? (idsNest_of_ofModels h)]
    exact find?_eq_some_of_nodup hnodup hnode
  · exact siblingsDistinct_of_nodup_ids h

end Catalog

namespace Library

theorem siblingsApart_branchCatalog : branchCatalog.SiblingsApart := by
  have hresources : ∀ node ∈ branchCatalog.nodes,
      (node.resources.map Resource.name).Pairwise Apart := by decide
  exact ⟨by decide, hresources⟩

/-- In the catalog of two services the ids of all nodes are distinct, and one of the resources is
found by its id. -/
theorem distinct_ids_branchCatalog :
    Catalog.ofModels [branch, annex] = .ok branchCatalog ∧ branchCatalog.SiblingsApart ∧
      (branchCatalog.nodes.map Node.id).Nodup ∧
      branchCatalog.findNode? "branch.Shelf"
        = some (.resource ⟨"branch.Shelf", "Shelf", [], []⟩) ∧
      branchCatalog.SiblingsDistinct := by
  obtain ⟨hdistinct, hconverse⟩ := Catalog.distinct_ids_of_ofModels ofModels_branch
  obtain ⟨hnodup, hfound⟩ := hdistinct siblingsApart_branchCatalog
  have hshelf := hfound (.resource ⟨"branch.Shelf", "Shelf", [], []⟩) (by decide)
  exact ⟨ofModels_branch, siblingsApart_branchCatalog, hnodup, hshelf, hconverse hnodup⟩

/-- One file is enough for nodes to share an id: a resource that is referred to twice
makes two nodes, and a resource of the same local name in another namespace makes a third
that is not found. -/
theorem ids_repeat :
    ([model].map Model.shortName).Nodup ∧ Catalog.ofModels [model] = .ok catalog ∧
      ¬(catalog.nodes.map Node.id).Nodup ∧
      ∃ node ∈ catalog.nodes, catalog.findNode? node.id ≠ some node := by
  refine ⟨by decide, ofModels_model, by decide, ?_⟩
  exact ⟨.resource (book []), by decide, by decide⟩

end Library

end ShapeCatalog
