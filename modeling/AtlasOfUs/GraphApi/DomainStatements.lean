import AtlasOfUs.Emissions
import AtlasOfUs.GraphApi.Opening

namespace AtlasOfUs.GraphApi

open Library

inductive CreateStatement (request : CreateDomainRequest) : Statement → Prop
  | check : CreateStatement request (checkStatement request.domain.name)
  | create : CreateStatement request
      (createDomainStatement request.domain.name request.domain.description)
  | store {q : Statement} (h : StoreStatement q) : CreateStatement request q

inductive UpdateStatement (request : UpdateDomainRequest) : Statement → Prop
  | verify : UpdateStatement request (verifyStatement request.domainElementId)
  | deleteProgress :
      UpdateStatement request (deleteProgressStatement request.removedNodeElementIds)
  | update : UpdateStatement request
      (renameStatement request.domainElementId request.domain.name request.domain.description)
  | deleteLevels : UpdateStatement request (deleteLevelsStatement request.domainElementId)
  | store {q : Statement} (h : StoreStatement q) : UpdateStatement request q

variable {allowed : Statement → Prop}

theorem runs_validateRequest (domain : DomainInfo) (levels : List DomainLevel) :
    Runs allowed (validateRequest domain levels) := by
  unfold validateRequest
  split
  · trivial
  · split <;> trivial

theorem runs_openDomain (request : CreateDomainRequest) :
    Runs (CreateStatement request) (openDomain request) := by
  refine (runs_validateRequest _ _).bind fun _ => Contract.bind ?_ fun _ => ?_
  · refine (Runs.execute .check).bind fun reply => ?_
    cases reply with
    | error e => trivial
    | ok result => cases h : result.firstRow <;> simp [h, Contract]
  · refine (Runs.execute .create).bind
      fun reply => ?_
    cases reply with
    | error e => trivial
    | ok result => cases h : result.firstRow <;> simp [h, Contract]

theorem runs_createDomain (request : CreateDomainRequest) :
    Runs (CreateStatement request) (createDomain request) :=
  (runs_openDomain request).bind fun domainId =>
    ((runs_storeLevels domainId request.levels).mono fun _ hq => .store hq).bind fun _ => trivial

theorem runs_reopenDomain (request : UpdateDomainRequest) :
    Runs (UpdateStatement request) (reopenDomain request) := by
  refine (runs_validateRequest _ _).bind fun _ => Contract.bind ?_ fun _ =>
    Contract.bind ?_ fun count => Contract.bind ?_ fun _ => Contract.bind ?_ fun _ => trivial
  · refine (Runs.execute .verify).bind fun reply => ?_
    cases reply with
    | error e => trivial
    | ok result => cases h : result.firstRow <;> simp [h, Contract]
  · unfold deleteProgress
    split
    · trivial
    · refine (Runs.execute .deleteProgress).bind fun reply => ?_
      cases reply with
      | error e => trivial
      | ok result => cases h : result.firstRow <;> simp [h, Contract]
  · refine (Runs.runStatement .update).bind fun reply => ?_
    cases reply <;> trivial
  · refine (Runs.runStatement .deleteLevels).bind fun reply => ?_
    cases reply <;> trivial

theorem runs_updateDomain (request : UpdateDomainRequest) :
    Runs (UpdateStatement request) (updateDomain request) :=
  (runs_reopenDomain request).bind fun _ =>
    ((runs_storeLevels request.domainElementId request.levels).mono fun _ hq => .store hq).bind
      fun _ => trivial

end AtlasOfUs.GraphApi
