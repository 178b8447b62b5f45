import AtlasOfUs.Agent.Supplies
import AtlasOfUs.GraphApi.LevelAlignment
import AtlasOfUs.Library.FirstOccurrences

namespace AtlasOfUs.Agent

open Library Similarity GraphApi

section Keys

variable (context : AgentContext) (n : CreatedNode)

theorem keys_addDomainLevel : (context.addDomainLevel n).domainGraph.keys.Perm
    (context.domainGraph.keys ++ [listed "Domain_Level" n]) := by
  rw [List.perm_iff_count]
  intro key
  simp only [DomainGraphRegistry.keys, AgentContext.addDomainLevel, List.map_append, List.map_cons,
    List.map_nil, List.count_append, listed]
  omega

theorem keys_addTrait : (context.addTrait n).domainGraph.keys.Perm
    (context.domainGraph.keys ++ [listed "Trait" n]) := by
  rw [List.perm_iff_count]
  intro key
  simp only [DomainGraphRegistry.keys, AgentContext.addTrait, List.map_append, List.map_cons,
    List.map_nil, List.count_append, listed]
  omega

theorem keys_addMilestone : (context.addMilestone n).domainGraph.keys.Perm
    (context.domainGraph.keys ++ [listed "Milestone" n]) := by
  rw [List.perm_iff_count]
  intro key
  simp only [DomainGraphRegistry.keys, AgentContext.addMilestone, List.map_append, List.map_cons,
    List.map_nil, List.count_append, listed]
  omega

theorem keys_setDomain {context : AgentContext} (hnone : context.domainGraph.domain = none)
    (n : CreatedNode) : (context.setDomain n).domainGraph.keys.Perm
    (context.domainGraph.keys ++ [listed "Domain" n]) := by
  rw [List.perm_iff_count]
  intro key
  simp only [DomainGraphRegistry.keys, AgentContext.setDomain, hnone, Option.toList_none,
    Option.toList_some, List.map_cons, List.map_nil, List.count_append, List.count_nil, listed]
  omega

end Keys

section Steps

variable {codec : Codec} {env : Env} {keys : List Key}

namespace TraitGeneratorStep

theorem supplying_verifyMatch (context : AgentContext) (found : String × List SimilarNodeResult) :
    Supplying codec env (keys ++ (matchKey "Trait" found).toList) (verifyMatch codec context found)
      (fun decision => keys ++ (reusedKey "Trait" decision).toList) := by
  obtain ⟨concept, similarNodes⟩ := found
  have hthreshold : reuseThreshold "Trait" = some (85 / 100) := rfl
  apply (Plain.supplying (plain_send _)).bind
  intro _
  cases similarNodes with
  | nil => exact Triple.done fun _ hs => hs
  | cons top rest =>
      have hmatch : matchKey "Trait" (concept, top :: rest) =
          if 85 / 100 ≤ top.score then some ("Trait", top.id) else none := by
        rw [matchKey, reusedMatch, hthreshold]
        by_cases hhigh : 85 / 100 ≤ top.score <;> simp [hhigh]
      simp only [hmatch]
      have hbounds : (65 / 100 : ℚ) ≤ 85 / 100 := by decide +kernel
      by_cases hlow : top.score < 65 / 100
      · have hnot : ¬ 85 / 100 ≤ top.score :=
          fun hhigh => Rat.not_le.2 hlow (Rat.le_trans hbounds hhigh)
        rw [if_pos hlow, if_neg hnot]
        exact Triple.done fun _ hs => hs
      · rw [if_neg hlow]
        by_cases hhigh : 85 / 100 ≤ top.score
        · rw [if_pos hhigh, if_pos hhigh]
          exact Triple.done fun _ hs => hs
        · rw [if_neg hhigh, if_neg hhigh, Option.toList_none, List.append_nil]
          exact supplying_ask fun response =>
            verdict_eq "Trait" (parseTraitVerification codec response concept top (top :: rest))

theorem supplying_pass3 (context : AgentContext)
    (found : List (String × List SimilarNodeResult)) :
    Supplying codec env (keys ++ found.filterMap (matchKey "Trait"))
      (pass3VerifyMatches codec context found)
      (fun verified => keys ++ verified.filterMap (reusedKey "Trait")) :=
  supplying_decisions (fun _ => supplying_verifyMatch context) found

theorem supplying_createConceptNode (acc : List CreatedNode × List NodeProperties)
    (concept : VerifiedConcept) :
    Supplying codec env
      (keys ++ acc.1.map (listed "Trait") ++ (reusedKey "Trait" concept).toList)
      (createConceptNode codec acc concept)
      (fun acc' => keys ++ acc'.1.map (listed "Trait")) := by
  rw [createConceptNode.eq_def]
  split
  · next id haction =>
      rw [reusedKey_useExisting haction, Option.toList_some, List.append_assoc]
      apply Triple.done
      intro s hs
      simpa [listed, CreatedNode.reused] using hs
  · next haction =>
      rw [reusedKey_of_ne fun id hid => by simp [haction] at hid, Option.toList_none,
        List.append_nil]
      cases acc.2 with
      | nil => exact Triple.fail fun _ _ => trivial
      | cons props rest =>
          exact supplying_creation "Trait" props acc.1 rest
  · next haction =>
      rw [reusedKey_of_ne fun id hid => by simp [haction] at hid, Option.toList_none,
        List.append_nil]
      exact Triple.done fun _ hs => hs

theorem supplying_execute (context : AgentContext) :
    Supplying codec env context.domainGraph.keys (execute codec context)
      (fun context' => context'.domainGraph.keys) := by
  apply (Plain.supplying (plain_send _)).bind
  intro _
  apply (supplying_failingIn (plain_ask fun _ => rfl).supplying).bind
  intro concepts
  apply (Plain.supplying (plain_send _)).bind
  intro _
  apply (supplying_failingIn (supplying_searches "Trait" concepts)).bind
  intro found
  apply (supplying_failingIn (supplying_pass3 context found)).bind
  intro verified
  apply (supplying_failingIn (plain_batch fun _ => plain_ask fun _ => rfl).supplying).bind
  intro properties
  have hcreate : Supplying codec env
      (context.domainGraph.keys ++ verified.filterMap (reusedKey "Trait"))
      (pass5CreateNodes codec verified properties)
      (fun created => context.domainGraph.keys ++ created.map (listed "Trait")) := by
    apply Triple.bind (supplying_concepts (fun _ => supplying_createConceptNode) verified properties)
    intro acc
    exact Triple.done fun _ hs => hs
  apply (supplying_failingIn hcreate).bind
  intro created
  have hannounce : Supplying codec env
      (context.domainGraph.keys ++ [] ++ created.map (listed "Trait"))
      (created.foldlM announce context) (fun context' => context'.domainGraph.keys ++ []) :=
    supplying_announcements keys_addTrait created context
  simpa only [List.append_nil] using hannounce

end TraitGeneratorStep

namespace MilestoneGeneratorStep

theorem supplying_createNodes (properties : List NodeProperties) :
    Supplying codec env keys (createNodes codec properties)
      (fun created => keys ++ created.map (listed "Milestone")) := by
  let filed := fun (created : List CreatedNode) (_ : List NodeProperties) =>
    keys ++ created.map (listed "Milestone")
  have hround : ∀ created props rest, Supplying codec env (filed created (props :: rest))
      (do
        let result ← storeNode codec (props.request "Milestone")
        return .new props.name result.elementId "Milestone" : Step CreatedNode)
      (fun n => filed (created ++ [n]) rest) := by
    intro created props rest
    have hstore : Supplying codec env (filed created rest)
        (storeNode codec (props.request "Milestone"))
        (fun result => filed created rest ++ [("Milestone", result.elementId)]) :=
      supplying_storeNode rfl
    apply hstore.bind
    intro result
    apply Triple.done
    intro s hs
    simpa [filed, listed, CreatedNode.new] using hs
  have hloop := Triple.mapM (fun created rest => Supplied codec (filed created rest)) hround
    properties []
  apply supplying_perm hloop
  · simp [filed]
  · intro created
    simp [filed]

theorem supplying_execute (context : AgentContext) :
    Supplying codec env context.domainGraph.keys (execute codec context)
      (fun context' => context'.domainGraph.keys) := by
  apply (Plain.supplying (plain_send _)).bind
  intro _
  apply (supplying_failingIn (plain_ask fun _ => rfl).supplying).bind
  intro concepts
  apply (Plain.supplying (plain_send _)).bind
  intro _
  apply (supplying_failingIn (plain_batch fun _ => plain_ask fun _ => rfl).supplying).bind
  intro properties
  apply (supplying_failingIn (supplying_createNodes properties)).bind
  intro created
  have hannounce : Supplying codec env
      (context.domainGraph.keys ++ [] ++ created.map (listed "Milestone"))
      (created.foldlM announce context) (fun context' => context'.domainGraph.keys ++ []) :=
    supplying_announcements keys_addMilestone created context
  simpa only [List.append_nil] using hannounce

end MilestoneGeneratorStep

namespace LevelDistributorStep

theorem supplying_createLevelRelationship (acc : Nat × AgentContext)
    (assignment : LevelAssignment) :
    Supplying codec env acc.2.domainGraph.keys (createLevelRelationship acc assignment)
      (fun acc' => acc'.2.domainGraph.keys) := by
  unfold createLevelRelationship
  split
  · exact Triple.done fun _ hs => hs
  · apply (Plain.supplying (plain_createRelationship _).attempt).bind
    intro result
    cases result with
    | ok _ => exact Triple.done fun _ hs => hs
    | error _ => exact Triple.done fun _ hs => hs

theorem plain_analyze (context : AgentContext) :
    Plain codec (analyzeLevelAssignments codec context) := by
  apply (Calls.mapM _ _).bind
  · exact fun _ => trivial
  · intro componentType _
    apply (plain_send _).bind
    exact fun _ => plain_ask fun _ => rfl

theorem supplying_execute (context : AgentContext) :
    Supplying codec env context.domainGraph.keys (execute codec context)
      (fun context' => context'.domainGraph.keys) := by
  apply (supplying_failingIn (plain_analyze context).supplying).bind
  intro assignments
  apply (Plain.supplying (plain_send _)).bind
  intro _
  apply (Plain.supplying (plain_send _)).bind
  intro _
  have hloop : Supplying codec env context.domainGraph.keys
      (createLevelRelationships assignments context) (fun acc => acc.2.domainGraph.keys) :=
    Triple.foldlM (fun acc _ => Supplied codec acc.2.domainGraph.keys)
      (fun acc assignment _ => supplying_createLevelRelationship acc assignment) assignments
      (0, context)
  apply (supplying_failingIn hloop).bind
  intro acc
  apply (Plain.supplying (plain_send _)).bind
  intro _
  exact Triple.done fun _ hs => hs

end LevelDistributorStep

namespace PrerequisiteMapperStep

theorem supplying_createPrerequisiteRelationship (acc : Nat × AgentContext)
    (prereq : PrerequisiteRelationship) :
    Supplying codec env acc.2.domainGraph.keys (createPrerequisiteRelationship acc prereq)
      (fun acc' => acc'.2.domainGraph.keys) := by
  apply (Plain.supplying (plain_createRelationship _).attempt).bind
  intro result
  cases result with
  | ok _ => exact Triple.done fun _ hs => hs
  | error _ => exact Triple.done fun _ hs => hs

theorem plain_analyze (context : AgentContext) :
    Plain codec (analyzePrerequisites codec context) := by
  apply (Calls.mapM _ _).bind
  · exact fun _ => trivial
  · intro sourceType _
    apply (plain_send _).bind
    exact fun _ => plain_ask fun _ => rfl

theorem supplying_execute (context : AgentContext) :
    Supplying codec env context.domainGraph.keys (execute codec context)
      (fun context' => context'.domainGraph.keys) := by
  apply (supplying_failingIn (plain_analyze context).supplying).bind
  intro prereqs
  apply (Plain.supplying (plain_send _)).bind
  intro _
  apply (Plain.supplying (plain_send _)).bind
  intro _
  have hloop : Supplying codec env context.domainGraph.keys
      (createPrerequisiteRelationships prereqs context) (fun acc => acc.2.domainGraph.keys) :=
    Triple.foldlM (fun acc _ => Supplied codec acc.2.domainGraph.keys)
      (fun acc prereq _ => supplying_createPrerequisiteRelationship acc prereq) prereqs
      (0, context)
  apply (supplying_failingIn hloop).bind
  intro acc
  apply (Plain.supplying (plain_send _)).bind
  intro _
  exact Triple.done fun _ hs => hs

end PrerequisiteMapperStep

namespace DomainArchitectStep

variable (tables : CharTables)

theorem plain_queueAvatarGeneration (domainName : String) (elementId : ElementId) :
    Plain codec (queueAvatarGeneration tables domainName elementId) := by
  apply (Calls.perform fun _ => rfl).bind
  intro configured
  cases configured with
  | false => trivial
  | true =>
      apply (Calls.perform fun _ => rfl).bind
      intro result
      cases result with
      | ok _ => exact plain_send _
      | error _ => trivial

theorem supplying_createLevel (domainId : ElementId) (context : AgentContext) (info : LevelInfo) :
    Supplying codec env context.domainGraph.keys (createLevel codec domainId context info)
      (fun context' => context'.domainGraph.keys) := by
  have hstore : Supplying codec env context.domainGraph.keys (storeNode codec (levelRequest info))
      (fun level => context.domainGraph.keys ++ [("Domain_Level", level.elementId)]) :=
    supplying_storeNode rfl
  apply (supplying_failingIn hstore).bind
  intro level
  have hlink : ∀ request, Plain codec (storeRelationship codec request) :=
    fun request => Calls.mapErr (plain_createRelationship request)
  apply (supplying_failingIn (hlink _).supplying).bind
  intro _
  apply (Plain.supplying (plain_send _)).bind
  intro _
  apply Triple.done
  intro s hs
  exact hs.perm (keys_addDomainLevel context (.new info.name level.elementId "Domain_Level")).symm

theorem supplying_execute {context : AgentContext} (hnone : context.domainGraph.domain = none) :
    Supplying codec env context.domainGraph.keys (execute codec tables context)
      (fun context' => context'.domainGraph.keys) := by
  apply (Plain.supplying (plain_send _)).bind
  intro _
  have hstore : Supplying codec env context.domainGraph.keys
      (storeNode codec (domainRequest context.domainName (context.description.getD "")))
      (fun domain => context.domainGraph.keys ++ [("Domain", domain.elementId)]) :=
    supplying_storeNode rfl
  apply (supplying_failingIn hstore).bind
  intro domain
  apply (Plain.supplying (plain_send _)).bind
  intro _
  apply (plain_queueAvatarGeneration tables _ _).supplying.bind
  intro _
  apply (Plain.supplying (plain_send _)).bind
  intro _
  let node := CreatedNode.new context.domainName domain.elementId "Domain"
  let founded := context.setDomain node
  have hloop : Supplying codec env founded.domainGraph.keys
      ((getLevelStructure context.domainName).foldlM (createLevel codec domain.elementId) founded)
      (fun context' => context'.domainGraph.keys) :=
    Triple.foldlM (fun context _ => Supplied codec context.domainGraph.keys)
      (fun context info _ => supplying_createLevel domain.elementId context info) _ founded
  exact hloop.weaken fun s hs => hs.perm (keys_setDomain hnone node).symm

end DomainArchitectStep

section Run

variable (tables : DomainArchitectStep.CharTables)

theorem supplying_executeAgent {agent : AgentType} {context : AgentContext}
    (hnone : agent = .domainArchitect → context.domainGraph.domain = none) :
    Supplying codec env context.domainGraph.keys (executeAgent codec tables agent context)
      (fun context' => context'.domainGraph.keys) := by
  cases agent with
  | domainArchitect => exact DomainArchitectStep.supplying_execute tables (hnone rfl)
  | knowledgeGenerator => exact (supplier_knowledge codec).execute context
  | skillGenerator => exact (supplier_skill codec).execute context
  | traitGenerator => exact TraitGeneratorStep.supplying_execute context
  | milestoneGenerator => exact MilestoneGeneratorStep.supplying_execute context
  | levelDistributor => exact LevelDistributorStep.supplying_execute context
  | prerequisiteMapper => exact PrerequisiteMapperStep.supplying_execute context

theorem supplying_runAgent {context : AgentContext} {agent : AgentType × Nat}
    (hnone : agent.1 = .domainArchitect → context.domainGraph.domain = none) (stats : DomainStatistics) :
    Supplying codec env context.domainGraph.keys (runAgent codec tables (context, stats) agent)
      (fun acc => acc.1.domainGraph.keys) := by
  rw [runAgent_eq]
  apply (Plain.supplying (plain_send _)).bind
  intro _
  apply Triple.attempt_bind (supplying_executeAgent tables hnone)
  · intro context'
    apply (Plain.supplying (plain_send _)).bind
    intro _
    exact Triple.done fun _ hs => hs
  · intro failure
    apply (Triple.true _).bind
    intro _
    apply (Triple.true _).bind
    intro _
    exact Triple.fail fun _ _ => trivial

theorem supplying_runAgents (context : AgentContext) (hempty : context.domainGraph = {}) :
    Supplying codec env [] (runAgents codec tables context) (fun acc => acc.1.domainGraph.keys) := by
  have hkeys : context.domainGraph.keys = [] := by
    rw [hempty]
    rfl
  have hsplit : allAgents.zipIdx =
      (.domainArchitect, 0) :: allAgents.zipIdx.tail := rfl
  have hfirst : Supplying codec env [] (runAgent codec tables (context, {}) (.domainArchitect, 0))
      (fun acc => acc.1.domainGraph.keys) := by
    have hnone : context.domainGraph.domain = none := by rw [hempty]
    rw [← hkeys]
    exact supplying_runAgent tables (fun _ => hnone) {}
  rw [runAgents, hsplit, List.foldlM_cons]
  apply hfirst.bind
  intro acc
  let Inv := fun (acc : AgentContext × DomainStatistics) (rest : List (AgentType × Nat))
    (s : Recorded) => Supplied codec acc.1.domainGraph.keys s ∧ ∀ x ∈ rest, x.1 ≠ .domainArchitect
  have hround : ∀ acc x rest, Triple (recorder env) (Inv acc (x :: rest))
      (runAgent codec tables acc x) (fun acc' => Inv acc' rest) (fun _ _ => True) := by
    intro ⟨context, stats⟩ x rest
    apply Triple.of_pre (fun _ hs => hs.2)
    intro hrest
    have hx : x.1 ≠ .domainArchitect := hrest x List.mem_cons_self
    apply (supplying_runAgent tables (fun h => absurd h hx) stats).conseq (fun _ hs => hs.1)
    · exact fun _ _ hs => ⟨hs, fun y hy => hrest y (List.mem_cons_of_mem _ hy)⟩
    · exact fun _ _ _ => trivial
  apply (Triple.foldlM Inv hround allAgents.zipIdx.tail acc).conseq
  · exact fun _ hs => ⟨hs, by decide⟩
  · exact fun _ _ hs => hs.1
  · exact fun _ _ _ => trivial

theorem supplying_generateDomain (domainName : String) (description : Option String) :
    Supplying codec env [] (generateDomain codec tables domainName description)
      (fun result => result.domainGraph.keys) := by
  have hcheck : Plain codec (checkDomainExists domainName) := by
    apply (plain_similarTo (by decide)).bind
    exact fun _ => trivial
  apply hcheck.supplying.bind
  intro existing
  cases existing with
  | some name =>
      apply (Plain.supplying (plain_send _)).bind
      intro _
      exact Triple.fail fun _ _ => trivial
  | none =>
      apply (Plain.supplying (plain_send _)).bind
      intro _
      apply (supplying_runAgents tables _ rfl).bind
      intro acc
      apply (Plain.supplying (plain_send _)).bind
      intro _
      exact Triple.done fun _ hs => hs

end Run

end Steps

theorem nodup_append_listed {keys : List Key} {label : String} (hother : ∀ key ∈ keys, key.1 ≠ label)
    (nodes : List CreatedNode) : (keys ++ nodes.map (fun n => (label, n.elementId))).Nodup ↔
      keys.Nodup ∧ (nodes.map (·.elementId)).Nodup := by
  have hmap : (nodes.map fun n => ((label, n.elementId) : Key)) =
      (nodes.map (·.elementId)).map (Prod.mk label) := by
    rw [List.map_map]
    rfl
  rw [hmap, List.nodup_append, List.nodup_map_iff fun _ _ h => (Prod.mk.inj h).2]
  refine and_congr_right fun _ => and_iff_left ?_
  rintro key hkey key' hkey' rfl
  obtain ⟨id, -, rfl⟩ := List.mem_map.1 hkey'
  exact hother _ hkey rfl

structure DomainGraphRegistry.ListsOnce (r : DomainGraphRegistry) : Prop where
  levels : (r.domainLevels.map (·.elementId)).Nodup
  knowledge : (r.knowledge.map (·.elementId)).Nodup
  skills : (r.skills.map (·.elementId)).Nodup
  traits : (r.traits.map (·.elementId)).Nodup
  milestones : (r.milestones.map (·.elementId)).Nodup

theorem nodup_keys (r : DomainGraphRegistry) : r.keys.Nodup ↔ r.ListsOnce := by
  have hdomain : (r.domain.toList.map fun n => (("Domain", n.elementId) : Key)).Nodup := by
    cases r.domain <;> simp
  rw [DomainGraphRegistry.keys]
  rw [nodup_append_listed, nodup_append_listed, nodup_append_listed, nodup_append_listed,
    nodup_append_listed]
  · constructor
    · rintro ⟨⟨⟨⟨⟨-, hlevels⟩, hknowledge⟩, hskills⟩, htraits⟩, hmilestones⟩
      exact ⟨hlevels, hknowledge, hskills, htraits, hmilestones⟩
    · rintro ⟨hlevels, hknowledge, hskills, htraits, hmilestones⟩
      exact ⟨⟨⟨⟨⟨hdomain, hlevels⟩, hknowledge⟩, hskills⟩, htraits⟩, hmilestones⟩
  all_goals
    simp only [List.mem_append, List.mem_map]
    grind

def retainUnseen (seen : List ElementId) : List CreatedNode → List CreatedNode
  | [] => []
  | n :: nodes =>
      if n.elementId ∈ seen then retainUnseen seen nodes
      else n :: retainUnseen (n.elementId :: seen) nodes

def DomainGraphRegistry.deduplicate (r : DomainGraphRegistry) : DomainGraphRegistry :=
  { r with
    knowledge := retainUnseen [] r.knowledge
    skills := retainUnseen [] r.skills
    traits := retainUnseen [] r.traits
    milestones := retainUnseen [] r.milestones
    domainLevels := retainUnseen [] r.domainLevels }

theorem retainUnseen_eq (seen : List ElementId) (nodes : List CreatedNode) :
    retainUnseen seen nodes = (retain (fun seen n => insertKey seen n.elementId) seen nodes).1 := by
  induction nodes generalizing seen with
  | nil => rfl
  | cons n nodes ih =>
      rw [retainUnseen, retain, insertKey]
      by_cases hseen : n.elementId ∈ seen
      · rw [if_pos hseen, if_pos hseen]
        exact ih seen
      · rw [if_neg hseen, if_neg hseen, ih]
        rfl

theorem retainUnseen_nil (nodes : List CreatedNode) :
    retainUnseen [] nodes = firsts (·.elementId) nodes := by
  rw [retainUnseen_eq, retain_insertKey_nil]

theorem retainUnseen_nil_iff {nodes : List CreatedNode} :
    retainUnseen [] nodes = nodes ↔ (nodes.map (·.elementId)).Nodup := by
  rw [retainUnseen_nil]
  exact firsts_eq_self_iff _ nodes

theorem nodup_retainUnseen (nodes : List CreatedNode) :
    ((retainUnseen [] nodes).map (·.elementId)).Nodup := by
  rw [retainUnseen_nil]
  exact nodup_firsts _ nodes

theorem listsOnce_deduplicate (r : DomainGraphRegistry) : r.deduplicate.ListsOnce where
  levels := nodup_retainUnseen _
  knowledge := nodup_retainUnseen _
  skills := nodup_retainUnseen _
  traits := nodup_retainUnseen _
  milestones := nodup_retainUnseen _

/-- The helper that the workflow does not call would leave exactly those
registries alone that list each node once. -/
theorem deduplicate_eq_self_iff (r : DomainGraphRegistry) : r.deduplicate = r ↔ r.ListsOnce := by
  constructor
  · intro h
    rw [← h]
    exact listsOnce_deduplicate r
  · intro h
    rw [DomainGraphRegistry.deduplicate, retainUnseen_nil_iff.2 h.levels,
      retainUnseen_nil_iff.2 h.knowledge, retainUnseen_nil_iff.2 h.skills,
      retainUnseen_nil_iff.2 h.traits, retainUnseen_nil_iff.2 h.milestones]

/-- Nothing removes a repetition, so the lists of a run that succeeds name each
node once exactly if the replies supply each node once under its label. -/
theorem generateDomain_listsOnce_iff (codec : Codec) (tables : DomainArchitectStep.CharTables)
    (env : Env) (w : World) (domainName : String) (description : Option String)
    (result : DomainGenerationResult)
    (h : (env.exec (generateDomain codec tables domainName description) w).exit = .ok result) :
    result.domainGraph.ListsOnce ↔
      ((env.exec (generateDomain codec tables domainName description) w).calls.filterMap
        (supplies codec)).Nodup := by
  have hsupplying : Supplying codec env [] (generateDomain codec tables domainName description)
      (fun result => result.domainGraph.keys) :=
    supplying_generateDomain tables domainName description
  have hperm := hsupplying.recorded_value (tallied_nil w) h
  rw [← nodup_keys]
  exact hperm.nodup_iff.symm

theorem bracketed_listsOnce_iff : ∃ result : DomainGenerationResult,
    (bracketed.exec (generateDomain (replying ["Openings"] noLinks) plainTables "Chess" none)
      (World.start emptyGraph)).exit = .ok result ∧
    (result.domainGraph.ListsOnce ↔
      ((bracketed.exec (generateDomain (replying ["Openings"] noLinks) plainTables "Chess" none)
        (World.start emptyGraph)).calls.filterMap (supplies (replying ["Openings"] noLinks))).Nodup) := by
  obtain ⟨result, hok⟩ : ∃ result, (bracketed.exec (generateDomain (replying ["Openings"] noLinks)
    plainTables "Chess" none) (World.start emptyGraph)).exit = .ok result := ⟨_, rfl⟩
  exact ⟨result, hok, generateDomain_listsOnce_iff _ _ bracketed _ "Chess" none result hok⟩

def oneMatch : Env :=
  { bracketed with
    similar := fun n =>
      if n = 37 ∨ n = 39 then .ok [⟨some "Openings", none, some (candidateId 0), some (97 / 100)⟩]
      else .ok [] }

theorem oneMatch_listed_twice :
    ¬ ∀ (codec : Codec) (tables : DomainArchitectStep.CharTables) (env : Env) (w : World)
      (domainName : String) (description : Option String) (result : DomainGenerationResult),
      (env.exec (generateDomain codec tables domainName description) w).exit = .ok result →
        result.domainGraph.ListsOnce := by
  intro hall
  have hrun : (oneMatch.exec (generateDomain (replying ["Openings", "Opening theory"] noLinks)
      plainTables "Chess" none) (World.start graphWithKnowledge)).exit.toOption.map
        (fun result => result.domainGraph.knowledge.map (·.elementId)) =
      some [candidateId 0, candidateId 0] := by
    decide +kernel
  obtain ⟨result, hok, hids⟩ := Option.map_eq_some_iff.1 hrun
  have honce := hall _ _ oneMatch (World.start graphWithKnowledge) "Chess" none result
    (Exit.toOption_eq_some.1 hok)
  have hnodup := honce.knowledge
  rw [hids] at hnodup
  simp at hnodup

end AtlasOfUs.Agent
