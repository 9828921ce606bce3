import ShapeCatalog.Catalog.Writer
import ShapeCatalog.Proofs.Rearrangement

/-!
The order of the input does not show in a catalog.  Where no two children of a node share a name,
the sorted children are the same in whatever order they were referred to, and so are, level by
level, the resources, the services and the catalog.
-/

namespace ShapeCatalog

open Collation

/-- No two resources and no two operations right below a node share a name. -/
structure Node.NamesDistinct (node : Node) : Prop where
  resources : (node.resources.map Resource.name).Nodup
  operations : (node.operations.map Operation.name).Nodup

/-- No two services share a name, and no two children of any node do. -/
structure Catalog.NamesDistinct (catalog : Catalog) : Prop where
  services : (catalog.services.map Service.name).Nodup
  nodes : ∀ node ∈ catalog.nodes, node.NamesDistinct

/-- What has been made of the items of a list, sorted by distinct names, is what is made of them in
another order. -/
theorem Rearranges.exists_sorted {α β γ : Type} {relation : α → β → Prop} {made : α → γ → Prop}
    (made' : β → γ → Prop) {name : γ → String} {items : List α} {others : List β} {found : List γ}
    (h : Rearranges relation items others) (hfound : List.Forall₂ made items found)
    (hnames : ((sortByName name found).map name).Nodup)
    (hmade : ∀ item other, ∀ result ∈ sortByName name found, relation item other →
      made item result → made' other result) :
    ∃ found', List.Forall₂ made' others found' ∧
      sortByName name found' = sortByName name found := by
  obtain ⟨found', hfound', hperm⟩ := h.exists_forall₂ hfound fun item other result hresult =>
    hmade item other result ((perm_sortByName found).mem_iff.mpr hresult)
  have hdistinct : (found.map name).Nodup :=
    ((perm_sortByName found).map name).nodup_iff.mp hnames
  exact ⟨found', hfound', sortByName_eq_of_perm hperm hdistinct⟩

theorem Resource.mem_family_of_mem {inner child : Resource} {resource : Resource}
    (hchild : child ∈ resource.resources) (hinner : inner ∈ child.family) :
    inner ∈ resource.family :=
  mem_family.mpr (Or.inr (mem_families.mpr ⟨child, hchild, hinner⟩))

namespace Model.Rearranged

variable {model other : Model} (h : model.Rearranged other)

include h

theorem operations_eq_ok {refs refs' : List ShapeRef} {operations : List Operation}
    (hrefs : refs'.Perm refs) (hmade : model.operations refs = .ok operations)
    (hnames : (operations.map Operation.name).Nodup) :
    other.operations refs' = .ok operations := by
  obtain ⟨found, hfound, rfl⟩ := Model.operations_eq_ok.mp hmade
  obtain ⟨found', hfound', hsorted⟩ := (Rearranges.of_perm hrefs).exists_sorted
    (fun ref operation => other.operation ref = .ok operation) hfound hnames (by
      rintro ref _ operation - rfl hoperation
      exact (h.operation_eq ref).trans hoperation)
  exact Model.operations_eq_ok.mpr ⟨found', hfound', hsorted.symm⟩

/-- The resource of a reference is the same, with everything below it. -/
theorem resource_eq_ok {levels : Nat} {parentId : String} {ref : ShapeRef} {resource : Resource}
    (hmade : model.resource levels parentId ref = .ok resource)
    (hnames : ∀ inner ∈ resource.family, (Node.resource inner).NamesDistinct) :
    other.resource levels parentId ref = .ok resource := by
  induction levels generalizing parentId ref resource with
  | zero => cases hmade
  | succ levels ih =>
      obtain ⟨shape, children, operations, hshape, hchildren, hoperations, rfl⟩ :=
        Model.resource_eq_ok.mp hmade
      have hself := hnames _ (Resource.mem_family.mpr (Or.inl rfl))
      obtain ⟨shape', hshape', hrearranged⟩ := h.document.lookup?_resource hshape
      obtain ⟨children', hchildren', hsorted⟩ :=
        (Rearranges.of_perm hrearranged.resources).exists_sorted
          (fun child below =>
            other.resource levels (parentId ++ "." ++ ref.localName) child = .ok below)
          hchildren hself.resources (by
            rintro child _ below hbelow rfl hmadeBelow
            exact ih hmadeBelow fun inner hinner =>
              hnames inner (Resource.mem_family_of_mem hbelow hinner))
      have hoperations' :=
        h.operations_eq_ok hrearranged.perm_operationRefs hoperations hself.operations
      exact Model.resource_eq_ok.mpr
        ⟨shape', children', operations, hshape', hchildren', hoperations', by rw [hsorted]⟩

theorem service_eq_ok {id : String} {shape shape' : ServiceShape} {service : Service}
    (hshape : shape.Rearranged shape') (hmade : model.service id shape = .ok service)
    (hnames : ∀ node ∈ service.nodes, node.NamesDistinct) :
    other.service id shape' = .ok service := by
  obtain ⟨children, operations, hchildren, hoperations, rfl⟩ := Model.service_eq_ok.mp hmade
  have hself := hnames _ List.mem_cons_self
  obtain ⟨children', hchildren', hsorted⟩ :=
    (Rearranges.of_perm hshape.resources).exists_sorted
      (fun child below => other.resource other.maxLevels other.shortName child = .ok below)
      hchildren hself.resources (by
        rintro child _ below hbelow rfl hmadeBelow
        rw [h.maxLevels_eq, h.shortName]
        refine h.resource_eq_ok hmadeBelow fun inner hinner => ?_
        refine hnames _ (List.mem_cons_of_mem _ (List.mem_map_of_mem ?_))
        exact Resource.mem_families.mpr ⟨below, hbelow, hinner⟩)
  have hoperations' := h.operations_eq_ok hshape.operations hoperations hself.operations
  refine Model.service_eq_ok.mpr ⟨children', operations, hchildren', hoperations', ?_⟩
  rw [hsorted, hshape.displayName_eq, hshape.clientId?_eq, h.shortName]

/-- The same services stand in both documents, in some order. -/
theorem serviceShapes : Rearranges
    (fun entry entry' => entry'.1 = entry.1 ∧ entry.2.Rearranged entry'.2)
    model.serviceShapes other.serviceShapes := by
  rw [Model.serviceShapes, Model.serviceShapes, List.filterMap_eq_flatMap_toList,
    List.filterMap_eq_flatMap_toList]
  refine h.document.shapes.flatMap ?_
  rintro ⟨id, shape⟩ ⟨_, shape'⟩ ⟨rfl, hshape⟩
  refine .of_forall₂ ?_
  cases hshape with
  | service hservice => exact .cons ⟨rfl, hservice⟩ .nil
  | resource hresource => exact .nil
  | refl =>
      cases shape with
      | service shape => exact .cons ⟨rfl, .refl shape⟩ .nil
      | _ => exact .nil

end Model.Rearranged

namespace Catalog

/-- The service shapes of all models are the same, each in a model that differs at most in order. -/
theorem rearranges_placedShapes {models others : List Model}
    (h : Rearranges Model.Rearranged models others) : Rearranges
      (fun placed placed' => placed.1.Rearranged placed'.1 ∧ placed'.2.1 = placed.2.1 ∧
        placed.2.2.Rearranged placed'.2.2)
      (Model.placedShapes models) (Model.placedShapes others) := by
  refine h.flatMap fun model other hmodel => ?_
  obtain ⟨ordered, hperm, hordered⟩ := hmodel.serviceShapes
  refine ⟨ordered.map fun entry => (model, entry), hperm.map _, ?_⟩
  rw [List.forall₂_map_left_iff, List.forall₂_map_right_iff]
  exact hordered.imp fun entry entry' hentry => ⟨hmodel, hentry⟩

/-- A catalog without shared names is made again, to the letter of its text, from the same models in
any order, with the shapes of each document in any order and the references to resources and
operations in any order. -/
theorem ofModels_of_rearranged {models others : List Model} {catalog : Catalog}
    (hmade : Catalog.ofModels models = .ok catalog) (hnames : catalog.NamesDistinct)
    (h : Rearranges Model.Rearranged models others) :
    Catalog.ofModels others = .ok catalog ∧
      ∀ layout, (Catalog.ofModels others).map (Catalog.write layout)
        = .ok (catalog.write layout) := by
  have hagain : Catalog.ofModels others = .ok catalog := by
    obtain ⟨found, hfound, hservices⟩ := ofModels_eq_ok_iff_placed.mp hmade
    have hdistinct := hnames.services
    rw [hservices] at hdistinct
    obtain ⟨found', hfound', hsorted⟩ := (rearranges_placedShapes h).exists_sorted
      (fun placed service => placed.1.service placed.2.1 placed.2.2 = .ok service)
      hfound hdistinct (by
        rintro ⟨model, id, shape⟩ ⟨other, _, shape'⟩ service hservice ⟨hmodel, rfl, hshape⟩ hmade
        refine hmodel.service_eq_ok hshape hmade fun node hnode => hnames.nodes node ?_
        exact List.mem_flatMap.mpr ⟨service, hservices ▸ hservice, hnode⟩)
    exact ofModels_eq_ok_iff_placed.mpr ⟨found', hfound', by rw [hservices, hsorted]⟩
  refine ⟨hagain, fun layout => ?_⟩
  rw [hagain]
  rfl

end Catalog

namespace Library

def annex : Model where
  shortName := "annex"
  document := {
    smithy := none
    shapes := ⟨[("n#Annex", .service ⟨none, [], [], [], SortedMap.empty⟩)], by decide⟩
    metadata := SortedMap.empty }

/-- A service with two resources and two operations. -/
def branch : Model where
  shortName := "branch"
  document := {
    smithy := none
    shapes := ⟨[
      ("n#Branch", .service ⟨none, [.bare "n#Open", .bare "n#Close"],
        [.bare "n#Shelf", .bare "n#Room"], [], SortedMap.empty⟩),
      ("n#Shelf", .resource (resourceShape [] [] none none)),
      ("n#Room", .resource (resourceShape ["n#Open", "n#Close"] [] none none)),
      ("n#Open", .operation (operationShape none)),
      ("n#Close", .operation (operationShape none))], by decide⟩
    metadata := SortedMap.empty }

/-- The same service with all shapes and references the other way round. -/
def branchReversed : Model where
  shortName := "branch"
  document := {
    smithy := none
    shapes := ⟨[
      ("n#Close", .operation (operationShape none)),
      ("n#Open", .operation (operationShape none)),
      ("n#Room", .resource (resourceShape ["n#Close", "n#Open"] [] none none)),
      ("n#Shelf", .resource (resourceShape [] [] none none)),
      ("n#Branch", .service ⟨none, [.bare "n#Close", .bare "n#Open"],
        [.bare "n#Room", .bare "n#Shelf"], [], SortedMap.empty⟩)], by decide⟩
    metadata := SortedMap.empty }

def branchOperations : List Operation :=
  [⟨"Close", "branch.Close", "close", none, .object []⟩,
    ⟨"Open", "branch.Open", "open", none, .object []⟩]

def branchCatalog : Catalog where
  services := [
    { nodeId := "annex"
      name := "Annex"
      shortName := "annex"
      className := none
      resources := []
      operations := [] },
    { nodeId := "branch"
      name := "Branch"
      shortName := "branch"
      className := none
      resources := [⟨"branch.Room", "Room", [], branchOperations⟩,
        ⟨"branch.Shelf", "Shelf", [], []⟩]
      operations := branchOperations }]

theorem services_annex : annex.services = .ok [{
    nodeId := "annex"
    name := "Annex"
    shortName := "annex"
    className := none
    resources := sortByName Resource.name []
    operations := sortByName Operation.name [] }] :=
  rfl

theorem services_branch : branch.services = .ok [{
    nodeId := "branch"
    name := "Branch"
    shortName := "branch"
    className := none
    resources := sortByName Resource.name [
      ⟨"branch.Shelf", "Shelf", sortByName Resource.name [], sortByName Operation.name []⟩,
      ⟨"branch.Room", "Room", sortByName Resource.name [],
        sortByName Operation.name branchOperations.reverse⟩]
    operations := sortByName Operation.name branchOperations.reverse }] :=
  rfl

theorem ofModels_branch : Catalog.ofModels [branch, annex] = .ok branchCatalog := by
  refine Catalog.ofModels_eq_ok.mpr ⟨_, .cons services_branch (.cons services_annex .nil), ?_⟩
  have hoperations : sortByName Operation.name branchOperations.reverse = branchOperations :=
    sortByName_pair (by decide)
  rw [hoperations, sortByName_nil, sortByName_nil, sortByName_pair (by decide)]
  exact (sortByName_pair (by decide)).symm

theorem namesDistinct_branchCatalog : branchCatalog.NamesDistinct := by
  have hnodes : ∀ node ∈ branchCatalog.nodes, (node.resources.map Resource.name).Nodup ∧
      (node.operations.map Operation.name).Nodup := by decide
  exact ⟨by decide, fun node hnode => ⟨(hnodes node hnode).1, (hnodes node hnode).2⟩⟩

theorem rearranged_branch : branch.Rearranged branchReversed where
  shortName := rfl
  document := {
    smithy := rfl
    shapes := ⟨branch.document.shapes.entries.reverse, List.reverse_perm _,
      .cons ⟨rfl, .refl _⟩ (.cons ⟨rfl, .refl _⟩ (.cons ⟨rfl, .resource
        ⟨rfl, rfl, rfl, rfl, rfl, rfl, rfl, .swap _ _ _, .nil, .nil, rfl⟩⟩ (.cons ⟨rfl, .refl _⟩
          (.cons ⟨rfl, .service ⟨rfl, .swap _ _ _, .swap _ _ _, rfl, rfl⟩⟩ .nil))))⟩
    metadata := rfl }

theorem rearranged_annex : annex.Rearranged annex where
  shortName := rfl
  document := ⟨rfl, .of_forall₂ (.cons ⟨rfl, .refl _⟩ .nil), rfl⟩

/-- With the files, the shapes and the references the other way round the catalog is the same. -/
theorem ofModels_branchReversed :
    Catalog.ofModels [branch, annex] = .ok branchCatalog ∧ branchCatalog.NamesDistinct ∧
      Rearranges Model.Rearranged [branch, annex] [annex, branchReversed] ∧
      Catalog.ofModels [annex, branchReversed] = .ok branchCatalog := by
  have hrearranged : Rearranges Model.Rearranged [branch, annex] [annex, branchReversed] :=
    ⟨[annex, branch], .swap _ _ _, .cons rearranged_annex (.cons rearranged_branch .nil)⟩
  have hagain := Catalog.ofModels_of_rearranged ofModels_branch namesDistinct_branchCatalog
    hrearranged
  exact ⟨ofModels_branch, namesDistinct_branchCatalog, hrearranged, hagain.1⟩

end Library

end ShapeCatalog
