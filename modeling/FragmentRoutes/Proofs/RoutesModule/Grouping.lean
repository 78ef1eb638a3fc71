import FragmentRoutes.Proofs.Text.Order
import FragmentRoutes.RoutesModule.Entry
import Mathlib.Data.List.Basic

/-!
# Groups of endpoints

Endpoints are put into groups by the identifiers of their files.  The groups have different
identifiers (`EndpointGroup.nodup_idents`), so their functions have different names
(`functionName_injective`), and every endpoint is in one of them (`EndpointGroup.perm_ofEndpoints`).
-/

namespace FragmentRoutes

/-- Items are in one part each if they are parted by their keys. -/
theorem perm_flatMap_filter {α : Type} (key : α → String) {keys : List String} (hkeys : keys.Nodup)
    {items : List α} (hitems : ∀ a ∈ items, key a ∈ keys) :
    (keys.flatMap fun k => items.filter fun a => key a == k).Perm items := by
  induction keys generalizing items with
  | nil =>
    have hnil : items = [] :=
      List.eq_nil_iff_forall_not_mem.mpr fun a ha => by simpa using hitems a ha
    rw [hnil]
    exact .refl _
  | cons k keys ih =>
    obtain ⟨hk, hkeys⟩ := List.nodup_cons.mp hkeys
    have hrest : ∀ a ∈ items.filter fun a => !(key a == k), key a ∈ keys := by
      intro a ha
      obtain ⟨ha, hne⟩ := List.mem_filter.mp ha
      exact (List.mem_cons.mp (hitems a ha)).resolve_left (by simpa using hne)
    -- the other parts are the same without the items of the first
    have hparts : (keys.flatMap fun k' => items.filter fun a => key a == k') =
        keys.flatMap fun k' => (items.filter fun a => !(key a == k)).filter fun a => key a == k' := by
      refine List.flatMap_congr fun k' hk' => ?_
      rw [List.filter_filter]
      refine List.filter_congr fun a _ => ?_
      by_cases ha : key a = k'
      · have hne : key a ≠ k := fun h => hk (by rw [← h, ha]; exact hk')
        simp [ha, ha ▸ hne]
      · simp [ha]
    rw [List.flatMap_cons, hparts]
    exact ((ih hkeys hrest).append_left _).trans (List.filter_append_perm _ items)

namespace RoutesModule

namespace EndpointGroup

/-- The identifiers of the groups, in order. -/
def idents (endpoints : List Endpoint) : List String :=
  ((endpoints.map fun e => Group.identOf e.definition).mergeSort
    fun a b => !decide (b < a)).eraseReps

/-- The endpoints at the positions of some of their definitions are those with these
definitions. -/
theorem filterMap_positions (endpoints : List Endpoint) (p : Definition → Bool) :
    (((endpoints.map (·.definition)).zipIdx.filter fun route => p route.1).filterMap fun route =>
      endpoints[route.2]?) = endpoints.filter fun e => p e.definition := by
  have hfound : ∀ entry ∈ endpoints.zipIdx.filter fun entry => p entry.1.definition,
      endpoints[entry.2]? = some entry.1 := fun entry hentry =>
    List.mem_zipIdx_iff_getElem?.mp (List.mem_of_mem_filter hentry)
  rw [List.zipIdx_map, List.filter_map, List.filterMap_map]
  calc (endpoints.zipIdx.filter fun entry => p entry.1.definition).filterMap
        (fun entry => endpoints[entry.2]?)
      = (endpoints.zipIdx.filter fun entry => p entry.1.definition).map Prod.fst := by
        rw [List.filterMap_congr hfound, List.filterMap_eq_map']
    _ = (endpoints.zipIdx.map Prod.fst).filter fun e => p e.definition := by
        rw [List.filter_map, Function.comp_def]
    _ = endpoints.filter fun e => p e.definition := by rw [List.zipIdx_map_fst]

/-- **A group** holds the endpoints with its identifier. -/
theorem ofEndpoints_eq (endpoints : List Endpoint) :
    ofEndpoints endpoints = (idents endpoints).map fun ident =>
      ⟨ident, endpoints.filter fun e => Group.identOf e.definition == ident⟩ := by
  simp only [ofEndpoints, Group.ofDefinitions, idents, List.map_map, Function.comp_def]
  exact List.map_congr_left fun ident _ =>
    congrArg (EndpointGroup.mk ident)
      (filterMap_positions endpoints fun d => Group.identOf d == ident)

theorem mem_idents {endpoints : List Endpoint} {ident : String} :
    ident ∈ idents endpoints ↔ ∃ e ∈ endpoints, Group.identOf e.definition = ident := by
  rw [idents, Text.mem_eraseReps, List.mem_mergeSort, List.mem_map]

theorem nodup_idents (endpoints : List Endpoint) : (idents endpoints).Nodup :=
  Text.nodup_of_pairwise_lt (Text.pairwise_eraseReps (Text.pairwise_mergeSort id _))

theorem map_ident_ofEndpoints (endpoints : List Endpoint) :
    (ofEndpoints endpoints).map (·.ident) = idents endpoints := by
  rw [ofEndpoints_eq, List.map_map, Function.comp_def, List.map_id']

/-- The identifiers of the groups are those of the endpoints. -/
theorem exists_ofEndpoints {endpoints : List Endpoint} (P : String → Prop) :
    (∃ g ∈ ofEndpoints endpoints, P g.ident) ↔ ∃ e ∈ endpoints, P (Group.identOf e.definition) := by
  have hmem := @mem_idents endpoints
  rw [← map_ident_ofEndpoints] at hmem
  constructor
  · rintro ⟨g, hg, hP⟩
    obtain ⟨e, he, hident⟩ := hmem.mp (List.mem_map_of_mem hg)
    exact ⟨e, he, by rwa [hident]⟩
  · rintro ⟨e, he, hP⟩
    obtain ⟨g, hg, hident⟩ := List.mem_map.mp (hmem.mpr ⟨e, he, rfl⟩)
    exact ⟨g, hg, by rwa [hident]⟩

/-- **Every endpoint is in one group.** -/
theorem perm_ofEndpoints (endpoints : List Endpoint) :
    ((ofEndpoints endpoints).flatMap (·.endpoints)).Perm endpoints := by
  rw [ofEndpoints_eq, List.flatMap_map]
  exact perm_flatMap_filter (fun e : Endpoint => Group.identOf e.definition)
    (nodup_idents endpoints) fun e he => mem_idents.mpr ⟨e, he, rfl⟩

theorem mem_of_mem_ofEndpoints {endpoints : List Endpoint} {g : EndpointGroup}
    (hg : g ∈ ofEndpoints endpoints) {e : Endpoint} (he : e ∈ g.endpoints) : e ∈ endpoints :=
  (perm_ofEndpoints endpoints).mem_iff.mp (List.mem_flatMap.mpr ⟨g, hg, he⟩)

end EndpointGroup

/-- Groups with different identifiers have different functions. -/
theorem functionName_injective (config : Config) :
    Function.Injective (Group.functionName config) := by
  intro a b h
  rw [Group.functionName, Group.functionName, String.append_assoc, String.append_assoc] at h
  exact (String.append_left_inj _).mp h

end RoutesModule

end FragmentRoutes
