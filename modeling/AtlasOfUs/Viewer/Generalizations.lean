import AtlasOfUs.Viewer.NodeTree
import Mathlib.Data.List.Perm.Basic

namespace AtlasOfUs.Viewer

open Library

/-- A node that the user is connected to, with the node that it generalizes to. -/
structure Affiliate extends Neo4jNode where
  generalizesToElementId : Option ElementId

structure GeneralizesToRef where
  elementId : ElementId
  name : String

structure DomainNode where
  elementId : ElementId
  generalizesTo : Option GeneralizesToRef

structure DomainLevel where
  skills : Option (List DomainNode)
  knowledge : Option (List DomainNode)

structure DomainData where
  levels : Option (List DomainLevel)

structure UserMatch where
  nodeName : Json
  nodeElementId : ElementId

structure GeneralizationSource where
  nodeElementId : ElementId
  nodeName : String
  deriving DecidableEq

abbrev GeneralizationMap := OrderedMap ElementId (List GeneralizationSource)

def Affiliate.general (node : Affiliate) : Option ElementId :=
  node.generalizesToElementId.filter (· ≠ "")

def Affiliate.userMatch (node : Affiliate) : UserMatch where
  nodeName := ((node.props.get "name").filter truthy).getD (.str "Unknown")
  nodeElementId := node.elementId

def userGeneralizations (affiliates : List Affiliate) : OrderedMap ElementId UserMatch :=
  OrderedMap.setAll Affiliate.general Affiliate.userMatch affiliates .empty

def DomainData.items (domainData : DomainData) : List DomainNode :=
  (domainData.levels.getD []).flatMap fun level => level.skills.getD [] ++ level.knowledge.getD []

def addSource (generalizations : OrderedMap ElementId UserMatch) (map : GeneralizationMap)
    (item : DomainNode) : GeneralizationMap :=
  match item.generalizesTo with
  | none => map
  | some general =>
      match generalizations.get general.elementId with
      | none => map
      | some userMatch =>
          if userMatch.nodeElementId ≠ item.elementId then
            let sources := (map.get item.elementId).getD []
            if sources.any fun s => s.nodeElementId = general.elementId then map
            else map.set item.elementId (sources ++ [⟨general.elementId, general.name⟩])
          else map

def generalizationMap (loggedIn : Bool) (affiliates : Option (List Affiliate))
    (domainData : Option DomainData) : GeneralizationMap :=
  match loggedIn, affiliates, domainData with
  | true, some affiliates, some domainData =>
      domainData.items.foldl (addSource (userGeneralizations affiliates)) .empty
  | _, _, _ => .empty

section Keys

variable {generalizations : OrderedMap ElementId UserMatch} {affiliates : List Affiliate}

/-- The affiliate that is kept for the item's general node is not the item itself. -/
def Matches (generalizations : OrderedMap ElementId UserMatch) (item : DomainNode) : Prop :=
  ∃ general, item.generalizesTo = some general ∧
    ∃ userMatch, generalizations.get general.elementId = some userMatch ∧
      userMatch.nodeElementId ≠ item.elementId

theorem mem_keys_addSource (map : GeneralizationMap) (item : DomainNode) (id : ElementId) :
    id ∈ (addSource generalizations map item).keys ↔
      id ∈ map.keys ∨ (item.elementId = id ∧ Matches generalizations item) := by
  rw [addSource, Matches]
  cases hgeneral : item.generalizesTo with
  | none => simp
  | some general =>
      cases hget : generalizations.get general.elementId with
      | none => simp [hget]
      | some userMatch =>
          by_cases hself : userMatch.nodeElementId = item.elementId
          · simp [hget, hself]
          · simp only [ne_eq, hself, not_false_eq_true, if_true, Option.some.injEq, exists_eq_left',
              hget, and_true]
            split
            · rename_i hany
              constructor
              · exact .inl
              · rintro (hmem | rfl)
                · exact hmem
                · rw [OrderedMap.mem_keys_iff]
                  cases hsources : map.get item.elementId with
                  | none => simp [hsources] at hany
                  | some sources => exact ⟨sources, rfl⟩
            · rw [OrderedMap.mem_keys_set, or_comm, eq_comm]

theorem mem_keys_foldl (items : List DomainNode) (map : GeneralizationMap) (id : ElementId) :
    id ∈ (items.foldl (addSource generalizations) map).keys ↔
      id ∈ map.keys ∨ ∃ item ∈ items, item.elementId = id ∧ Matches generalizations item := by
  induction items generalizing map with
  | nil => simp
  | cons item items ih =>
      rw [List.foldl_cons, ih, mem_keys_addSource, or_assoc, List.exists_mem_cons_iff]

theorem get_userGeneralizations (affiliates : List Affiliate) (g : ElementId) :
    (userGeneralizations affiliates).get g =
      (affiliates.filter fun a => a.general = some g).getLast?.map Affiliate.userMatch := by
  rw [userGeneralizations, OrderedMap.get_setAll, OrderedMap.get_empty, Option.or_none]

theorem mem_keys_generalizationMap (affiliates : List Affiliate) (domainData : DomainData)
    (id : ElementId) :
    id ∈ (generalizationMap true (some affiliates) (some domainData)).keys ↔
      ∃ item ∈ domainData.items, item.elementId = id ∧ ∃ general,
        item.generalizesTo = some general ∧ ∃ last,
          (affiliates.filter fun a => a.general = some general.elementId).getLast? = some last ∧
            last.elementId ≠ id := by
  have hempty : id ∉ (OrderedMap.empty : GeneralizationMap).keys := List.not_mem_nil
  rw [generalizationMap, mem_keys_foldl, or_iff_right hempty]
  apply exists_congr
  intro item
  apply and_congr_right
  rintro -
  apply and_congr_right
  rintro rfl
  apply exists_congr
  intro general
  apply and_congr_right
  rintro -
  rw [get_userGeneralizations]
  simp [Option.map_eq_some_iff, Affiliate.userMatch]

end Keys

/-- An item of the domain with this id generalizes to a node to which an affiliate with another id
generalizes. -/
def Hinted (affiliates : List Affiliate) (domainData : DomainData) (id : ElementId) : Prop :=
  ∃ item ∈ domainData.items, item.elementId = id ∧ ∃ general,
    item.generalizesTo = some general ∧
      ∃ a ∈ affiliates, a.general = some general.elementId ∧ a.elementId ≠ id

/-- The same with no affiliate that is the item itself. -/
def Unmistakable (affiliates : List Affiliate) (domainData : DomainData) (id : ElementId) : Prop :=
  ∃ item ∈ domainData.items, item.elementId = id ∧ ∃ general,
    item.generalizesTo = some general ∧
      (∃ a ∈ affiliates, a.general = some general.elementId) ∧
        ∀ a ∈ affiliates, a.general = some general.elementId → a.elementId ≠ id

section Orders

variable {affiliates affiliates' : List Affiliate} {domainData : DomainData} {id : ElementId}

theorem Hinted.of_perm (hperm : affiliates.Perm affiliates') (h : Hinted affiliates domainData id) :
    Hinted affiliates' domainData id := by
  obtain ⟨item, hitem, hid, general, hgeneral, a, ha, hto⟩ := h
  exact ⟨item, hitem, hid, general, hgeneral, a, hperm.mem_iff.1 ha, hto⟩

theorem Unmistakable.of_perm (hperm : affiliates.Perm affiliates')
    (h : Unmistakable affiliates domainData id) : Unmistakable affiliates' domainData id := by
  obtain ⟨item, hitem, hid, general, hgeneral, ⟨a, ha, hto⟩, hother⟩ := h
  exact ⟨item, hitem, hid, general, hgeneral, ⟨a, hperm.mem_iff.1 ha, hto⟩,
    fun b hb => hother b (hperm.mem_iff.2 hb)⟩

theorem hinted_of_mem_keys
    (h : id ∈ (generalizationMap true (some affiliates) (some domainData)).keys) :
    Hinted affiliates domainData id := by
  obtain ⟨item, hitem, hid, general, hgeneral, last, hlast, hne⟩ :=
    (mem_keys_generalizationMap affiliates domainData id).1 h
  obtain ⟨hmem, hto⟩ := List.mem_filter.1 (List.mem_of_getLast? hlast)
  exact ⟨item, hitem, hid, general, hgeneral, last, hmem, of_decide_eq_true hto, hne⟩

theorem mem_keys_of_unmistakable (h : Unmistakable affiliates domainData id) :
    id ∈ (generalizationMap true (some affiliates) (some domainData)).keys := by
  obtain ⟨item, hitem, hid, general, hgeneral, ⟨a, ha, hto⟩, hother⟩ := h
  have hne : (affiliates.filter fun a => a.general = some general.elementId) ≠ [] :=
    List.ne_nil_of_mem (List.mem_filter.2 ⟨ha, decide_eq_true hto⟩)
  have hlast := List.getLast?_eq_some_getLast hne
  obtain ⟨hmem, hlastTo⟩ := List.mem_filter.1 (List.getLast_mem hne)
  exact (mem_keys_generalizationMap affiliates domainData id).2
    ⟨item, hitem, hid, general, hgeneral, _, hlast, hother _ hmem (of_decide_eq_true hlastTo)⟩

theorem unmistakable_of_last
    (h : id ∈ (generalizationMap true (some (affiliates.filter (fun a => a.elementId ≠ id) ++
      affiliates.filter fun a => a.elementId = id)) (some domainData)).keys) :
    Unmistakable affiliates domainData id := by
  obtain ⟨item, hitem, hid, general, hgeneral, last, hlast, hne⟩ :=
    (mem_keys_generalizationMap _ domainData id).1 h
  obtain ⟨hmem, hto⟩ := List.mem_filter.1 (List.mem_of_getLast? hlast)
  refine ⟨item, hitem, hid, general, hgeneral, ⟨last, ?_, of_decide_eq_true hto⟩, ?_⟩
  · rcases List.mem_append.1 hmem with hmem | hmem
    · exact List.mem_of_mem_filter hmem
    · exact List.mem_of_mem_filter hmem
  · intro a ha hato haid
    have hne' : (affiliates.filter fun a => a.elementId = id).filter
        (fun a => a.general = some general.elementId) ≠ [] := by
      apply List.ne_nil_of_mem
      exact List.mem_filter.2 ⟨List.mem_filter.2 ⟨ha, decide_eq_true haid⟩, decide_eq_true hato⟩
    rw [List.filter_append, List.getLast?_append, List.getLast?_eq_some_getLast hne',
      Option.some_or, Option.some.injEq] at hlast
    have hlastmem := List.mem_of_mem_filter (List.getLast_mem hne')
    rw [hlast] at hlastmem
    exact hne (of_decide_eq_true (List.mem_filter.1 hlastmem).2)

end Orders

/-- The keys of the map are what they should be, in every order of the affiliates, just if each hint
can be had from a general node that no affiliate with the item's own id leads to. -/
theorem generalizationMap_iff (affiliates : List Affiliate) (domainData : DomainData) :
    ((∀ id, id ∈ (generalizationMap true (some affiliates) (some domainData)).keys ↔
        Hinted affiliates domainData id) ∧
      ∀ affiliates' : List Affiliate, affiliates.Perm affiliates' → ∀ id,
        id ∈ (generalizationMap true (some affiliates') (some domainData)).keys ↔
          id ∈ (generalizationMap true (some affiliates) (some domainData)).keys) ↔
      ∀ id, Hinted affiliates domainData id → Unmistakable affiliates domainData id := by
  constructor
  · rintro ⟨hcomplete, horder⟩ id hinted
    have hperm : (affiliates.filter (fun a => a.elementId ≠ id) ++
        affiliates.filter fun a => a.elementId = id).Perm affiliates := by
      apply List.perm_append_comm.trans
      convert List.filter_append_perm (fun a : Affiliate => decide (a.elementId = id)) affiliates
        using 4
      simp
    exact unmistakable_of_last ((horder _ hperm.symm id).2 ((hcomplete id).2 hinted))
  · intro h
    have hkeys : ∀ affiliates' : List Affiliate, affiliates.Perm affiliates' → ∀ id,
        id ∈ (generalizationMap true (some affiliates') (some domainData)).keys ↔
          Hinted affiliates domainData id := by
      intro affiliates' hperm id
      constructor
      · intro hmem
        exact (hinted_of_mem_keys hmem).of_perm hperm.symm
      · intro hinted
        exact mem_keys_of_unmistakable ((h id hinted).of_perm hperm)
    constructor
    · exact hkeys affiliates (.refl _)
    · intro affiliates' hperm id
      rw [hkeys affiliates' hperm id, hkeys affiliates (.refl _) id]

/-- A user who has the item itself and another skill with the same general node. -/
def rustAndGo : List Affiliate :=
  [⟨⟨"4:1", ["Skill"], .object []⟩, some "4:9"⟩, ⟨⟨"4:2", ["Skill"], .object []⟩, some "4:9"⟩]

def goDomain : DomainData := ⟨some [⟨some [⟨"4:2", some ⟨"4:9", "Programming"⟩⟩], none⟩]⟩

/-- The item is hinted at, but the map has it only if the affiliates come in the other order. -/
theorem rustAndGo_unhinted :
    Hinted rustAndGo goDomain "4:2" ∧
      "4:2" ∉ (generalizationMap true (some rustAndGo) (some goDomain)).keys ∧
      "4:2" ∈ (generalizationMap true (some rustAndGo.reverse) (some goDomain)).keys := by
  refine ⟨⟨_, List.mem_cons_self, rfl, _, rfl, _, List.mem_cons_self, rfl, by decide⟩, ?_, ?_⟩
  · decide
  · decide

end AtlasOfUs.Viewer
