import AtlasOfUs.Agent.Books
import AtlasOfUs.Library.Tally

namespace AtlasOfUs.Agent

open Library Similarity GraphApi

abbrev Key := String × ElementId

def DomainGraphRegistry.keys (r : DomainGraphRegistry) : List Key :=
  r.domain.toList.map (fun n => ("Domain", n.elementId)) ++
    r.domainLevels.map (fun n => ("Domain_Level", n.elementId)) ++
    r.knowledge.map (fun n => ("Knowledge", n.elementId)) ++
    r.skills.map (fun n => ("Skill", n.elementId)) ++
    r.traits.map (fun n => ("Trait", n.elementId)) ++
    r.milestones.map (fun n => ("Milestone", n.elementId))

def VerifiedConcept.reusedId (c : VerifiedConcept) : Option ElementId :=
  match c.action with
  | .useExisting id => some id
  | _ => none

def reuseThreshold (label : String) : Option ℚ :=
  [("Knowledge", SIMILARITY_THRESHOLD_HIGH), ("Skill", SIMILARITY_THRESHOLD_HIGH),
    ("Trait", 85 / 100)].lookup label

def reusedMatch (label : String) (found : List SimilarNodeResult) : Option ElementId := do
  let threshold ← reuseThreshold label
  let top ← found.head?
  if threshold ≤ top.score then some top.id else none

def madeLabel (q : Statement) : Option String :=
  match (q emptyGraph).2.nodes with
  | [n] => n.labels.head?
  | _ => none

def Prompt.verdict (codec : Codec) (response : String) : Prompt → Option Key
  | .verifySimilarKnowledge concept _ _ =>
      ((parseVerificationResponse codec response concept).toOption.bind
        VerifiedConcept.reusedId).map (Prod.mk "Knowledge")
  | .verifySimilarSkill concept _ _ =>
      ((parseVerificationResponse codec response concept).toOption.bind
        VerifiedConcept.reusedId).map (Prod.mk "Skill")
  | .verifySimilarTrait concept _ (top :: rest) =>
      ((TraitGeneratorStep.parseTraitVerification codec response concept top
        (top :: rest)).toOption.bind VerifiedConcept.reusedId).map (Prod.mk "Trait")
  | _ => none

/-- The node that a reply supplies: one that was created, a match close enough
to be reused (the searches for matches ask for three), or the one that a verdict names. -/
def supplies (codec : Codec) : AgentCall → Option Key
  | ⟨.execute q, reply⟩ =>
      match madeLabel q, reply with
      | some label, .ok rs =>
          rs.firstRow.map (fun row => (label, (row.getString "elementId").getD ""))
      | _, _ => none
  | ⟨.queryNodes (some label) limit _, reply⟩ =>
      match reply with
      | .ok rows =>
          if limit = 3 then
            (reusedMatch label (rows.map SimilarNodeResult.ofRow)).map (Prod.mk label)
          else none
      | .error _ => none
  | ⟨.generate prompt, reply⟩ =>
      match reply with
      | .ok response => prompt.verdict codec response
      | .error _ => none
  | _ => none

theorem madeLabel_createNode (label : String) (props : Props) :
    madeLabel (createNodeStatement [label] props) = some label := rfl

theorem madeLabel_merge (request : CreateRelationshipRequest) :
    madeLabel request.statement = none := by
  have hnodes : (request.statement emptyGraph).2.nodes = [] :=
    mergeRelationshipStatement_nodes _ _ _ _ emptyGraph
  rw [madeLabel, hnodes]

theorem supplies_unmade {codec : Codec} {q : Statement} (hq : madeLabel q = none)
    (reply : Except String RowStream) : supplies codec ⟨.execute q, reply⟩ = none := by
  simp [supplies, hq]

section Rules

variable {codec : Codec} {env : Env} {keys : List Key} {ε α β : Type}

abbrev Supplied (codec : Codec) (keys : List Key) : Recorded → Prop := Tallied (supplies codec) keys

/-- The program makes no call whose reply could supply a node. -/
abbrev Plain (codec : Codec) (p : Service SseEvent Prompt ε α) : Prop :=
  Calls (I := services SseEvent Prompt) (fun o => ∀ reply, supplies codec ⟨o, reply⟩ = none) p

abbrev Supplying (codec : Codec) (env : Env) (keys : List Key) (p : Service SseEvent Prompt ε α)
    (keysOf : α → List Key) : Prop :=
  Triple (recorder env) (Supplied codec keys) p (fun a => Supplied codec (keysOf a))
    (fun _ _ => True)

theorem Plain.supplying {p : Service SseEvent Prompt ε α} (hp : Plain codec p) :
    Supplying codec env keys p (fun _ => keys) :=
  (Triple.tally_quiet hp).conseq (fun _ hs => hs) (fun _ _ hs => hs) (fun _ _ _ => trivial)

theorem supplying_perm {p : Service SseEvent Prompt ε α} {keys' : List Key}
    {keysOf keysOf' : α → List Key} (hp : Supplying codec env keys p keysOf)
    (hkeys : keys'.Perm keys) (hkeysOf : ∀ a, (keysOf a).Perm (keysOf' a)) :
    Supplying codec env keys' p keysOf' :=
  Triple.conseq hp (fun _ hs => hs.perm hkeys) (fun a _ hs => hs.perm (hkeysOf a))
    (fun _ _ _ => trivial)

theorem Plain.knowing {p : Service SseEvent Prompt ε α} {φ : α → Prop} (hp : Plain codec p)
    (hφ : Triple (recorder env) (fun _ => True) p (fun a _ => φ a) (fun _ _ => True)) :
    Triple (recorder env) (Supplied codec keys) p (fun a s => Supplied codec keys s ∧ φ a)
      (fun _ _ => True) :=
  (hp.supplying.and hφ).conseq (fun _ hs => ⟨hs, trivial⟩) (fun _ _ hs => hs) (fun _ _ _ => trivial)

theorem plain_send (e : SseEvent) :
    Plain codec (send e : Service SseEvent Prompt ε Unit) := Calls.perform fun _ => rfl

theorem plain_ask {prompt : Prompt} {parse : String → Parsed α}
    (hprompt : ∀ response, prompt.verdict codec response = none) : Plain codec (ask prompt parse) := by
  apply (Calls.perform _).bind
  · intro reply
    cases reply with
    | error e => trivial
    | ok response => exact Calls.ofExit _
  · intro reply
    cases reply with
    | error e => rfl
    | ok response => exact hprompt response

theorem plain_similarTo {label : String} {limit : Int} {text : String} (hlimit : limit ≠ 3) :
    Plain codec (similarTo label limit text) := by
  apply Calls.mapErr
  apply (Calls.perform fun _ => rfl).bind
  intro vector
  apply (Calls.ofExcept vector).bind
  intro vector
  apply (Calls.perform _).bind
  · exact fun rows => (Calls.ofExcept rows).bind fun _ => trivial
  · intro reply
    cases reply with
    | error e => rfl
    | ok rows => exact if_neg hlimit

theorem plain_createRelationship (request : CreateRelationshipRequest) :
    Plain codec (createRelationship request : Service SseEvent Prompt ServiceError _) := by
  apply (Calls.perform _).bind
  · intro reply
    cases reply with
    | error e => trivial
    | ok rs => cases h : rs.firstRow <;> simp [h, Calls]
  · exact fun reply => supplies_unmade (madeLabel_merge request) reply

theorem supplying_similarTo (label text : String) :
    Supplying codec env keys (similarTo label 3 text) (fun found =>
      keys ++ ((reusedMatch label found).map (Prod.mk label)).toList) := by
  apply Triple.mapErr
  apply (Plain.supplying (Calls.perform fun _ => rfl)).bind
  intro vector
  apply (Plain.supplying (Calls.ofExcept vector)).bind
  intro vector
  apply (Triple.tally_perform _).bind
  intro reply
  cases reply with
  | error e => exact Triple.fail fun _ _ => trivial
  | ok rows => exact Triple.done fun _ hs => hs

theorem supplying_storeNode {request : CreateNodeRequest} {label : String}
    (hlabel : request.labels = [label]) :
    Supplying codec env keys (storeNode codec request) (fun result =>
      keys ++ [(label, result.elementId)]) := by
  apply Triple.mapErr
  apply (Plain.supplying (Calls.perform fun _ => rfl)).bind
  intro embedding
  cases embedding with
  | error e => exact Triple.fail fun _ _ => trivial
  | ok embedding =>
      apply (Triple.tally_perform _).bind
      intro reply
      cases reply with
      | error e => exact Triple.fail fun _ _ => trivial
      | ok rs =>
          simp only
          cases hrow : rs.firstRow with
          | none => exact Triple.fail fun _ _ => trivial
          | some row =>
              apply Triple.done
              intro s hs
              simpa [supplies, hlabel, madeLabel_createNode, hrow] using hs

theorem plain_batch {f : α → Step β} {xs : List α} (hf : ∀ x, Plain codec (f x)) :
    Plain codec (batch f xs) :=
  (Calls.mapM xs fun x _ => (hf x).attempt).bind fun results => Calls.ofExcept (collect results)

theorem supplying_ask {prompt : Prompt} {parse : String → Parsed α} {keyOf : α → Option Key}
    (hparse : ∀ response, prompt.verdict codec response = (parse response).toOption.bind keyOf) :
    Supplying codec env keys (ask prompt parse) (fun a => keys ++ (keyOf a).toList) := by
  apply (Triple.tally_perform _).bind
  intro reply
  cases reply with
  | error e => exact Triple.fail fun _ _ => trivial
  | ok response =>
      apply Triple.ofExit
      · intro a s hread hs
        have hsupplies : supplies codec ⟨.generate prompt, .ok response⟩ = keyOf a := by
          refine (hparse response).trans ?_
          rw [hread]
          rfl
        have hs' : Supplied codec
            (keys ++ (supplies codec ⟨.generate prompt, .ok response⟩).toList) s := hs
        rwa [hsupplies] at hs'
      · exact fun _ _ _ _ => trivial

theorem collect_append {results : List (Except String α)} {result : Except String α}
    {values : List α} (h : collect (results ++ [result]) = .ok values) :
    ∃ before a, collect results = .ok before ∧ result = .ok a ∧ values = before ++ [a] := by
  induction results generalizing values with
  | nil =>
      cases result with
      | error e => cases h
      | ok a =>
          obtain rfl := Except.ok.inj h
          exact ⟨[], a, rfl, rfl, rfl⟩
  | cons first results ih =>
      cases first with
      | error e => cases h
      | ok b =>
          cases htail : collect (results ++ [result]) with
          | error e => simp [collect, htail, Except.map] at h
          | ok tail =>
              simp only [List.cons_append, collect, htail, Except.map, Except.ok.injEq] at h
              obtain ⟨before, a, hbefore, ha, rfl⟩ := ih htail
              refine ⟨b :: before, a, ?_, ha, ?_⟩
              · rw [collect, hbefore]
                rfl
              · exact h.symm

/-- The rule for a batch that succeeds: the invariant relates the values there
are, the items still to come and the state. -/
theorem triple_batch {σ : Type} {h : Handler (services SseEvent Prompt) σ}
    (Inv : List β → List α → σ → Prop) {f : α → Step β}
    (hf : ∀ ys x rest, Triple h (Inv ys (x :: rest)) (f x) (fun y => Inv (ys ++ [y]) rest)
      (fun _ _ => True)) (xs : List α) :
    Triple h (Inv [] xs) (batch f xs) (fun ys => Inv ys []) (fun _ _ => True) := by
  let Collected := fun (results : List (Except String β)) (rest : List α) (s : σ) =>
    ∀ values, collect results = .ok values → Inv values rest s
  have hround : ∀ results x rest, Triple h (Collected results (x :: rest)) (f x).attempt
      (fun result => Collected (results ++ [result]) rest) (fun (_ : String) _ => True) := by
    intro results x rest
    apply Triple.attempt
    cases hbefore : collect results with
    | error e =>
        apply (Triple.true _).conseq (fun _ _ => trivial)
        · intro y s _ values hvalues
          obtain ⟨before, a, hok, -⟩ := collect_append hvalues
          rw [hbefore] at hok
          cases hok
        · intro e s _ values hvalues
          obtain ⟨before, a, hok, -⟩ := collect_append hvalues
          rw [hbefore] at hok
          cases hok
    | ok ys =>
        apply (hf ys x rest).conseq (fun s hs => hs ys hbefore)
        · intro y s hs values hvalues
          obtain ⟨before, a, hok, ha, rfl⟩ := collect_append hvalues
          obtain rfl := Except.ok.inj (hbefore.symm.trans hok)
          obtain rfl := Except.ok.inj ha
          exact hs
        · intro e s _ values hvalues
          obtain ⟨before, a, -, ha, -⟩ := collect_append hvalues
          cases ha
  have hloop : Triple h (Collected [] xs) (xs.mapM fun x => (f x).attempt)
      (fun results => Collected results []) (fun (_ : String) _ => True) :=
    Triple.mapM Collected hround xs []
  apply (hloop.weaken fun s hs values hvalues => ?_).bind
  · intro results
    cases hresults : collect results with
    | error e => exact Triple.fail fun _ _ => trivial
    | ok values => exact Triple.done fun s hs => hs values hresults
  · obtain rfl := Except.ok.inj hvalues
    exact hs

theorem supplying_failingIn {p : Step α} {keysOf : α → List Key} {context : AgentContext}
    (hp : Supplying codec env keys p keysOf) :
    Supplying codec env keys (p.failingIn context) keysOf :=
  Triple.mapErr hp

end Rules

def matchKey (label : String) (found : String × List SimilarNodeResult) : Option Key :=
  (reusedMatch label found.2).map (Prod.mk label)

def reusedKey (label : String) (c : VerifiedConcept) : Option Key := c.reusedId.map (Prod.mk label)

def listed (label : String) (n : CreatedNode) : Key := (label, n.elementId)

section Decisions

variable {codec : Codec} {env : Env} {keys : List Key}

theorem supplying_searches (label : String) (concepts : List String) :
    Supplying codec env keys
      (batch (fun concept => do return (concept, ← similarTo label 3 concept)) concepts)
      (fun found => keys ++ found.filterMap (matchKey label)) := by
  let filed := fun (found : List (String × List SimilarNodeResult)) (_ : List String) =>
    keys ++ found.filterMap (matchKey label)
  have hround : ∀ found concept rest, Supplying codec env (filed found (concept :: rest))
      (do return (concept, ← similarTo label 3 concept) : Step _)
      (fun result => filed (found ++ [result]) rest) := by
    intro found concept rest
    apply (supplying_similarTo label concept).bind
    intro similarNodes
    apply Triple.done
    intro s hs
    simp only [filed] at hs ⊢
    rwa [filterMap_snoc, ← List.append_assoc]
  have hbatch := triple_batch (fun found rest => Supplied codec (filed found rest)) hround concepts
  apply supplying_perm hbatch
  · simp [filed]
  · exact fun found => List.Perm.refl _

theorem reusedKey_useExisting {concept : VerifiedConcept} {id : ElementId}
    (h : concept.action = .useExisting id) (label : String) :
    reusedKey label concept = some (label, id) := by
  rw [reusedKey, VerifiedConcept.reusedId, h]
  rfl

theorem reusedKey_of_ne {concept : VerifiedConcept}
    (h : ∀ id, concept.action = .useExisting id → False) (label : String) :
    reusedKey label concept = none := by
  rw [reusedKey, VerifiedConcept.reusedId]
  split
  · next id haction => exact (h id haction).elim
  · rfl

/-- The rule for the loop of decisions, each of which reuses what its own search
or its own verdict supplies. -/
theorem supplying_decisions {label : String}
    {f : String × List SimilarNodeResult → Step VerifiedConcept}
    (hf : ∀ keys x, Supplying codec env (keys ++ (matchKey label x).toList) (f x)
      (fun decision => keys ++ (reusedKey label decision).toList))
    (found : List (String × List SimilarNodeResult)) :
    Supplying codec env (keys ++ found.filterMap (matchKey label)) (found.mapM f)
      (fun verified => keys ++ verified.filterMap (reusedKey label)) := by
  let filed := fun (verified : List VerifiedConcept)
    (rest : List (String × List SimilarNodeResult)) =>
      keys ++ verified.filterMap (reusedKey label) ++ rest.filterMap (matchKey label)
  have hround : ∀ verified x rest, Supplying codec env (filed verified (x :: rest)) (f x)
      (fun decision => filed (verified ++ [decision]) rest) := by
    intro verified x rest
    apply supplying_perm (hf _ x)
    · simp only [filed]
      rw [filterMap_cons_eq, ← List.append_assoc]
      exact perm_swap_last _ _ _
    · intro decision
      simp only [filed]
      rw [filterMap_snoc, ← List.append_assoc]
      exact perm_swap_last _ _ _
  have hloop := Triple.mapM (fun verified rest => Supplied codec (filed verified rest)) hround found []
  apply supplying_perm hloop
  · simp [filed]
  · intro verified
    simp [filed]

theorem supplying_creation (label : String) (props : NodeProperties) (created : List CreatedNode)
    (rest : List NodeProperties) :
    Supplying codec env (keys ++ created.map (listed label))
      (do
        let result ← storeNode codec (props.request label)
        return (created ++ [.new props.name result.elementId label], rest) : Step _)
      (fun acc => keys ++ acc.1.map (listed label)) := by
  have hstore : Supplying codec env (keys ++ created.map (listed label))
      (storeNode codec (props.request label)) (fun result =>
        keys ++ created.map (listed label) ++ [(label, result.elementId)]) := supplying_storeNode rfl
  apply hstore.bind
  intro result
  apply Triple.done
  intro s hs
  simpa [listed, CreatedNode.new] using hs

theorem supplying_concepts {label : String}
    {f : List CreatedNode × List NodeProperties → VerifiedConcept →
      Step (List CreatedNode × List NodeProperties)}
    (hf : ∀ keys acc concept, Supplying codec env
      (keys ++ acc.1.map (listed label) ++ (reusedKey label concept).toList) (f acc concept)
      (fun acc' => keys ++ acc'.1.map (listed label)))
    (verified : List VerifiedConcept) (properties : List NodeProperties) :
    Supplying codec env (keys ++ verified.filterMap (reusedKey label))
      (verified.foldlM f ([], properties)) (fun acc => keys ++ acc.1.map (listed label)) := by
  let filed := fun (acc : List CreatedNode × List NodeProperties) (rest : List VerifiedConcept) =>
    keys ++ acc.1.map (listed label) ++ rest.filterMap (reusedKey label)
  have hround : ∀ acc concept rest, Supplying codec env (filed acc (concept :: rest))
      (f acc concept) (fun acc' => filed acc' rest) := by
    intro acc concept rest
    apply supplying_perm (hf (keys ++ rest.filterMap (reusedKey label)) acc concept)
    · simp only [filed]
      rw [filterMap_cons_eq, ← List.append_assoc]
      apply (perm_swap_last _ _ _).trans
      exact List.Perm.append_right _ (perm_swap_last _ _ _)
    · exact fun acc' => perm_swap_last _ _ _
  have hloop := Triple.foldlM (fun acc rest => Supplied codec (filed acc rest)) hround verified
    ([], properties)
  apply supplying_perm hloop
  · simp [filed]
  · intro acc
    simp [filed]

theorem supplying_announcements {label : String} {event : CreatedNode → SseEvent}
    {add : AgentContext → CreatedNode → AgentContext}
    (hadd : ∀ context n, (add context n).domainGraph.keys.Perm
      (context.domainGraph.keys ++ [listed label n])) (nodes : List CreatedNode)
    (context : AgentContext) :
    Supplying codec env (context.domainGraph.keys ++ keys ++ nodes.map (listed label))
      (nodes.foldlM (fun context n => do
        send (event n)
        return add context n) context : ContextStep AgentContext)
      (fun context' => context'.domainGraph.keys ++ keys) := by
  let filed := fun (context : AgentContext) (rest : List CreatedNode) =>
    context.domainGraph.keys ++ keys ++ rest.map (listed label)
  have hround : ∀ context n rest, Supplying codec env (filed context (n :: rest))
      (do
        send (event n)
        return add context n : ContextStep AgentContext) (fun context' => filed context' rest) := by
    intro context n rest
    apply (Plain.supplying (plain_send _)).bind
    intro _
    apply Triple.done
    intro s hs
    apply Tallied.perm hs
    simp only [filed]
    rw [List.map_cons, ← List.singleton_append, ← List.append_assoc]
    apply List.Perm.append_right
    apply (perm_swap_last _ _ _).trans
    exact List.Perm.append_right keys (hadd context n).symm
  have hloop := Triple.foldlM (fun context rest => Supplied codec (filed context rest)) hround nodes
    context
  apply supplying_perm hloop (List.Perm.refl _)
  intro context'
  simp [filed]

end Decisions

theorem verdict_eq (label : String) (parsed : Parsed VerifiedConcept) :
    (parsed.toOption.bind VerifiedConcept.reusedId).map (Prod.mk label) =
      parsed.toOption.bind (reusedKey label) := by
  cases parsed <;> rfl

theorem reusedId_determineActionByScore {label : String}
    (hlabel : reuseThreshold label = some SIMILARITY_THRESHOLD_HIGH) (concept : String)
    (found : List SimilarNodeResult) :
    (determineActionByScore concept found).bind VerifiedConcept.reusedId =
      reusedMatch label found := by
  cases found with
  | nil => simp [determineActionByScore, reusedMatch, hlabel, VerifiedConcept.createNew,
      VerifiedConcept.reusedId]
  | cons top rest =>
      have hbounds : SIMILARITY_THRESHOLD_LOW ≤ SIMILARITY_THRESHOLD_HIGH := by
        decide +kernel
      simp only [determineActionByScore, reusedMatch, hlabel, List.head?_cons, Option.bind_eq_bind,
        Option.bind_some]
      by_cases hlow : top.score < SIMILARITY_THRESHOLD_LOW
      · have hnot : ¬ SIMILARITY_THRESHOLD_HIGH ≤ top.score := by
          exact fun hhigh => Rat.not_le.2 hlow (Rat.le_trans hbounds hhigh)
        rw [if_pos hlow, if_neg hnot]
        rfl
      · rw [if_neg hlow]
        by_cases hhigh : SIMILARITY_THRESHOLD_HIGH ≤ top.score
        · rw [if_pos hhigh, if_pos hhigh]
          rfl
        · rw [if_neg hhigh, if_neg hhigh]
          rfl

namespace GeneratorKind

/-- Only the verification prompt of the kind asks for reuse, and nodes are filed under its label. -/
structure Supplier (kind : GeneratorKind) (codec : Codec) : Prop where
  threshold : reuseThreshold kind.label = some SIMILARITY_THRESHOLD_HIGH
  concepts : ∀ context response, (kind.conceptsPrompt context).verdict codec response = none
  properties : ∀ domainName concept general response,
    (kind.propertiesPrompt domainName concept general).verdict codec response = none
  generic : ∀ concept response, (kind.genericPrompt concept).verdict codec response = none
  verify : ∀ concept domainName found response,
    (kind.verifyPrompt concept domainName found).verdict codec response =
      (parseVerificationResponse codec response concept).toOption.bind (reusedKey kind.label)
  files : ∀ context n, (kind.addNode context n).domainGraph.keys.Perm
    (context.domainGraph.keys ++ [listed kind.label n])

variable {kind : GeneratorKind} {codec : Codec} {env : Env} {keys : List Key}

theorem plain_resolveDecision (concept : String) (similarNodes : List SimilarNodeResult)
    (verdict : VerifiedConcept) :
    Plain codec (kind.resolveDecision concept similarNodes verdict) := by
  unfold resolveDecision
  split
  · unfold resolveTarget
    split
    · trivial
    · apply (plain_similarTo (by decide)).bind
      intro results
      split <;> trivial
  · trivial

theorem plain_report (concept : String) (decision : VerifiedConcept) :
    Plain codec (kind.report concept decision) := by
  unfold report
  split
  · exact plain_send _
  · trivial

theorem reusedId_resolveDecision {σ : Type} {h : Handler (services SseEvent Prompt) σ}
    (concept : String) (similarNodes : List SimilarNodeResult) (verdict : VerifiedConcept) :
    Triple h (fun _ => True) (kind.resolveDecision concept similarNodes verdict)
      (fun decision _ => decision.reusedId = verdict.reusedId) (fun _ _ => True) := by
  unfold resolveDecision
  split
  · next id targetName needed haction =>
      have hverdict : verdict.reusedId = none := by rw [VerifiedConcept.reusedId, haction]
      unfold resolveTarget
      split
      · exact Triple.done fun _ _ => hverdict.symm
      · apply (Triple.true _).bind
        intro results
        split
        · exact Triple.done fun _ _ => hverdict.symm
        · exact Triple.done fun _ _ => hverdict.symm
  · exact Triple.done fun _ _ => rfl

theorem Supplier.verifyMatch (hk : kind.Supplier codec) (context : AgentContext)
    (found : String × List SimilarNodeResult) :
    Supplying codec env (keys ++ (matchKey kind.label found).toList)
      (kind.verifyMatch codec context found)
      (fun decision => keys ++ (reusedKey kind.label decision).toList) := by
  obtain ⟨concept, similarNodes⟩ := found
  have hscore := reusedId_determineActionByScore hk.threshold concept similarNodes
  rw [GeneratorKind.verifyMatch]
  apply (Plain.supplying (plain_send _)).bind
  intro _
  cases hdecision : determineActionByScore concept similarNodes with
  | some decision =>
      rw [hdecision, Option.bind_some] at hscore
      apply (plain_report concept decision).supplying.bind
      intro _
      apply Triple.done
      intro s hs
      change Supplied codec (keys ++ (decision.reusedId.map (Prod.mk kind.label)).toList) s
      rwa [hscore]
  | none =>
      rw [hdecision, Option.bind_none] at hscore
      rw [matchKey, ← hscore, Option.map_none, Option.toList_none, List.append_nil]
      apply (supplying_ask (hk.verify concept context.domainName similarNodes)).bind
      intro verdict
      have hplain : Plain codec (kind.resolveDecision concept similarNodes verdict) :=
        plain_resolveDecision concept similarNodes verdict
      apply (hplain.knowing (reusedId_resolveDecision concept similarNodes verdict)).bind
      intro decision
      apply Triple.of_pre (fun _ hs => hs.2)
      intro hsame
      apply ((plain_report concept decision).supplying.weaken fun _ hs => hs.1).bind
      intro _
      apply Triple.done
      intro s hs
      change Supplied codec (keys ++ (decision.reusedId.map (Prod.mk kind.label)).toList) s
      rwa [hsame]

theorem Supplier.pass3 (hk : kind.Supplier codec) (context : AgentContext)
    (found : List (String × List SimilarNodeResult)) :
    Supplying codec env (keys ++ found.filterMap (matchKey kind.label))
      (kind.pass3VerifyMatches codec context found)
      (fun verified => keys ++ verified.filterMap (reusedKey kind.label)) :=
  supplying_decisions (fun _ => hk.verifyMatch context) found

def NotReused (verified : List VerifiedConcept) (i : Nat) : Prop :=
  ∀ c, verified[i]? = some c → c.reusedId = none

theorem notReused_of_mem {verified : List VerifiedConcept} {i : Nat} {name : String}
    (h : (i, name) ∈ targetsToCreate verified) : NotReused verified i := by
  obtain ⟨⟨c, j⟩, hmem, hname⟩ := List.mem_filterMap.1 h
  obtain ⟨target, hmissing, heq⟩ := Option.map_eq_some_iff.1 hname
  obtain ⟨rfl, rfl⟩ := Prod.mk.inj heq
  intro c' hc'
  have hget : verified[j]? = some c := List.mem_zipIdx_iff_getElem?.1 hmem
  obtain rfl := Option.some.inj (hget.symm.trans hc')
  rw [missingTarget] at hmissing
  rw [VerifiedConcept.reusedId]
  split at hmissing
  · next haction => rw [haction]
  · cases hmissing

theorem reusedKey_setAction {verified : List VerifiedConcept} {i : Nat} (h : NotReused verified i)
    (label : String) (id : ElementId) (name : String) :
    (setAction verified i (.createAndGeneralize id name false)).filterMap (reusedKey label) =
      verified.filterMap (reusedKey label) := by
  apply filterMap_modify
  intro c hc
  rw [reusedKey, reusedKey, h c hc]
  rfl

theorem NotReused.setAction {verified : List VerifiedConcept} {i j : Nat} (h : NotReused verified i)
    (id : ElementId) (name : String) :
    NotReused (setAction verified j (.createAndGeneralize id name false)) i := by
  intro c hc
  rw [GeneratorKind.setAction, List.getElem?_modify] at hc
  obtain ⟨c', hget, rfl⟩ := Option.map_eq_some_iff.1 hc
  by_cases hij : j = i
  · rw [if_pos hij]
    rfl
  · rw [if_neg hij]
    exact h c' hget

theorem Supplier.genericProperties (hk : kind.Supplier codec) (verified : List VerifiedConcept) :
    Triple (recorder env) (Supplied codec keys)
      (batch (fun target : Nat × String => do
        let props ← ask (kind.genericPrompt target.2)
          (fun response => kind.parseKindProperties codec response target.2)
        return (target.1, target.2, props)) (targetsToCreate verified))
      (fun properties s => Supplied codec keys s ∧ ∀ x ∈ properties, NotReused verified x.1)
      (fun _ _ => True) := by
  apply Plain.knowing
  · apply plain_batch
    intro target
    exact (plain_ask (hk.generic target.2)).bind fun _ => trivial
  · let Inv := fun (properties : List (Nat × String × NodeProperties)) (rest : List (Nat × String))
      (_ : Recorded) => (∀ x ∈ properties, NotReused verified x.1) ∧ ∀ x ∈ rest, NotReused verified x.1
    apply (triple_batch Inv _ _).conseq
    · exact fun _ _ => ⟨fun _ hx => absurd hx List.not_mem_nil, fun _ hx => notReused_of_mem hx⟩
    · exact fun _ _ hs => hs.1
    · exact fun _ _ _ => trivial
    · intro properties target rest
      apply Triple.of_pre (fun _ hs => hs)
      intro hs
      apply (Triple.true _).bind
      intro props
      apply Triple.done
      intro _ _
      refine ⟨fun x hx => ?_, fun x hx => hs.2 x (List.mem_cons_of_mem _ hx)⟩
      rcases List.mem_append.1 hx with hx | hx
      · exact hs.1 x hx
      · obtain rfl := List.mem_singleton.1 hx
        exact hs.2 target List.mem_cons_self

theorem Supplier.pass4 (hk : kind.Supplier codec) (verified : List VerifiedConcept) :
    Supplying codec env (keys ++ verified.filterMap (reusedKey kind.label))
      (kind.pass4CreateMissingTargets codec verified)
      (fun result => keys ++ result.1.filterMap (reusedKey kind.label) ++
        result.2.map (listed kind.label)) := by
  apply (hk.genericProperties verified).bind
  intro properties
  apply Triple.of_pre (fun _ hs => hs.2)
  intro hnotReused
  let filed := fun (acc : List VerifiedConcept × List CreatedNode) =>
    keys ++ acc.1.filterMap (reusedKey kind.label) ++ acc.2.map (listed kind.label)
  let Inv := fun (acc : List VerifiedConcept × List CreatedNode)
    (rest : List (Nat × String × NodeProperties)) (s : Recorded) =>
      Supplied codec (filed acc) s ∧ ∀ x ∈ rest, NotReused acc.1 x.1
  have hround : ∀ acc x rest, Triple (recorder env) (Inv acc (x :: rest))
      (kind.createTarget codec acc x) (fun acc' => Inv acc' rest) (fun _ _ => True) := by
    intro acc x rest
    apply Triple.of_pre (fun _ hs => hs.2)
    intro hrest
    have hstore : Supplying codec env (filed acc) (storeNode codec (x.2.2.request kind.label))
        (fun result => filed acc ++ [(kind.label, result.elementId)]) := supplying_storeNode rfl
    apply (hstore.weaken fun _ hs => hs.1).bind
    intro result
    apply Triple.done
    intro s hs
    refine ⟨?_, fun y hy => (hrest y (List.mem_cons_of_mem _ hy)).setAction _ _⟩
    simp only [filed] at hs ⊢
    rwa [reusedKey_setAction (hrest x List.mem_cons_self), List.map_append, ← List.append_assoc]
  apply (Triple.foldlM Inv hround properties (verified, [])).conseq
  · exact fun s hs => ⟨by simpa [filed] using hs.1, hnotReused⟩
  · exact fun _ _ hs => hs.1
  · exact fun _ _ _ => trivial

theorem Supplier.announceAll (hk : kind.Supplier codec) (nodes : List CreatedNode)
    (context : AgentContext) :
    Supplying codec env (context.domainGraph.keys ++ keys ++ nodes.map (listed kind.label))
      (nodes.foldlM kind.announce context) (fun context' => context'.domainGraph.keys ++ keys) :=
  supplying_announcements hk.files nodes context

theorem Supplier.createTargets (hk : kind.Supplier codec) (context : AgentContext)
    (verified : List VerifiedConcept) :
    Supplying codec env
      (context.domainGraph.keys ++ verified.filterMap (reusedKey kind.label))
      (kind.createTargets codec context verified)
      (fun result => result.1.domainGraph.keys ++ result.2.filterMap (reusedKey kind.label)) := by
  rw [GeneratorKind.createTargets]
  split
  · apply (Plain.supplying (plain_send _)).bind
    intro _
    apply (supplying_failingIn (hk.pass4 verified)).bind
    intro targets
    apply (hk.announceAll targets.2 context).bind
    intro context'
    exact Triple.done fun _ hs => hs
  · exact Triple.done fun _ hs => hs

theorem Supplier.plain_pass5 (hk : kind.Supplier codec) (context : AgentContext)
    (verified : List VerifiedConcept) :
    Plain codec (kind.pass5GenerateProperties codec context verified) := by
  apply plain_batch
  intro concept
  exact plain_ask (hk.properties context.domainName concept.1 concept.2)

theorem supplying_createConceptNode (acc : List CreatedNode × List NodeProperties)
    (concept : VerifiedConcept) :
    Supplying codec env
      (keys ++ acc.1.map (listed kind.label) ++ (reusedKey kind.label concept).toList)
      (kind.createConceptNode codec acc concept)
      (fun acc' => keys ++ acc'.1.map (listed kind.label)) := by
  rw [createConceptNode.eq_def]
  split
  · next id haction =>
      rw [reusedKey_useExisting haction, Option.toList_some, List.append_assoc]
      apply Triple.done
      intro s hs
      simpa [listed, CreatedNode.reused] using hs
  · next hnot =>
      rw [reusedKey_of_ne hnot, Option.toList_none, List.append_nil]
      cases acc.2 with
      | nil => exact Triple.fail fun _ _ => trivial
      | cons props rest =>
          exact supplying_creation kind.label props acc.1 rest

theorem supplying_pass6 (verified : List VerifiedConcept) (properties : List NodeProperties) :
    Supplying codec env (keys ++ verified.filterMap (reusedKey kind.label))
      (kind.pass6CreateNodes codec verified properties)
      (fun created => keys ++ created.map (listed kind.label)) := by
  have hloop : Supplying codec env (keys ++ verified.filterMap (reusedKey kind.label))
      (verified.foldlM (kind.createConceptNode codec) ([], properties))
      (fun acc => keys ++ acc.1.map (listed kind.label)) :=
    supplying_concepts (fun _ => supplying_createConceptNode) verified properties
  apply hloop.bind
  intro acc
  exact Triple.done fun _ hs => hs

theorem supplying_linkGeneralization (created : List CreatedNode) (context : AgentContext)
    (concept : VerifiedConcept) :
    Supplying codec env (context.domainGraph.keys ++ keys)
      (kind.linkGeneralization created context concept)
      (fun context' => context'.domainGraph.keys ++ keys) := by
  unfold linkGeneralization
  split
  · split
    · exact Triple.fail fun _ _ => trivial
    · apply (Plain.supplying (plain_createRelationship _).attempt).bind
      intro result
      cases result with
      | ok _ => exact Triple.done fun _ hs => hs
      | error _ => exact Triple.done fun _ hs => hs
  · exact Triple.done fun _ hs => hs

theorem supplying_pass7 (verified : List VerifiedConcept) (created : List CreatedNode)
    (context : AgentContext) :
    Supplying codec env (context.domainGraph.keys ++ keys)
      (kind.pass7CreateGeneralizationRelationships verified created context)
      (fun context' => context'.domainGraph.keys ++ keys) :=
  Triple.foldlM (fun context _ => Supplied codec (context.domainGraph.keys ++ keys))
    (fun context concept _ => supplying_linkGeneralization created context concept) verified context

theorem Supplier.execute (hk : kind.Supplier codec) (context : AgentContext) :
    Supplying codec env context.domainGraph.keys (kind.execute codec context)
      (fun context' => context'.domainGraph.keys) := by
  apply (Plain.supplying (plain_send _)).bind
  intro _
  apply (supplying_failingIn (plain_ask (hk.concepts context)).supplying).bind
  intro concepts
  apply (Plain.supplying (plain_send _)).bind
  intro _
  apply (Plain.supplying (plain_send _)).bind
  intro _
  apply (supplying_failingIn (supplying_searches kind.label concepts)).bind
  intro found
  apply (Plain.supplying (plain_send _)).bind
  intro _
  apply (supplying_failingIn (hk.pass3 context found)).bind
  intro verified
  apply (hk.createTargets context verified).bind
  intro targets
  apply (Plain.supplying (plain_send _)).bind
  intro _
  apply (supplying_failingIn (hk.plain_pass5 targets.1 targets.2).supplying).bind
  intro properties
  apply (Plain.supplying (plain_send _)).bind
  intro _
  apply (supplying_failingIn (supplying_pass6 targets.2 properties)).bind
  intro created
  apply (supplying_pass7 targets.2 created targets.1).bind
  intro context'
  have hannounce : Supplying codec env
      (context'.domainGraph.keys ++ [] ++ created.map (listed kind.label))
      (created.foldlM kind.announce context') (fun context'' => context''.domainGraph.keys ++ []) :=
    hk.announceAll created context'
  simpa only [List.append_nil] using hannounce

end GeneratorKind

theorem keys_addKnowledge (context : AgentContext) (n : CreatedNode) :
    (context.addKnowledge n).domainGraph.keys.Perm
      (context.domainGraph.keys ++ [listed "Knowledge" n]) := by
  rw [List.perm_iff_count]
  intro key
  simp only [DomainGraphRegistry.keys, AgentContext.addKnowledge, List.map_append, List.map_cons,
    List.map_nil, List.count_append, listed]
  omega

theorem keys_addSkill (context : AgentContext) (n : CreatedNode) :
    (context.addSkill n).domainGraph.keys.Perm
      (context.domainGraph.keys ++ [listed "Skill" n]) := by
  rw [List.perm_iff_count]
  intro key
  simp only [DomainGraphRegistry.keys, AgentContext.addSkill, List.map_append, List.map_cons,
    List.map_nil, List.count_append, listed]
  omega

theorem supplier_knowledge (codec : Codec) : knowledgeKind.Supplier codec where
  threshold := rfl
  concepts _ _ := rfl
  properties _ _ _ _ := rfl
  generic _ _ := rfl
  verify concept _ _ response :=
    verdict_eq "Knowledge" (parseVerificationResponse codec response concept)
  files := keys_addKnowledge

theorem supplier_skill (codec : Codec) : skillKind.Supplier codec where
  threshold := rfl
  concepts _ _ := rfl
  properties _ _ _ _ := rfl
  generic _ _ := rfl
  verify concept _ _ response :=
    verdict_eq "Skill" (parseVerificationResponse codec response concept)
  files := keys_addSkill

end AtlasOfUs.Agent
