import AtlasOfUs.Editor.DomainCreator

namespace AtlasOfUs.Editor

open Library
open GraphApi (Api CreateDomainRequest UpdateDomainRequest)
open HttpService (SavedDomain SaveDomainResponse)

variable {env : Env} {w : World}

theorem HttpService.updateDomain_success {request : UpdateDomainRequest} {response : SaveDomainResponse}
    (h : (env.exec (HttpService.updateDomain request) w).exit = .ok response)
    (hsuccess : response.success = true) :
    (env.exec (HttpService.updateDomain request) w).state =
        (env.exec (GraphApi.updateDomain request) w).state ∧
      ∃ result, (env.exec (GraphApi.updateDomain request) w).exit = .ok result ∧
        response.domain = some ⟨result.domainElementId, result.domainName⟩ := by
  rw [HttpService.updateDomain, GraphApi.Handlers.updateDomain, exec_bind, exec_bind, exec_attempt] at h ⊢
  cases hexit : (env.exec (GraphApi.updateDomain request) w).exit with
  | ok result =>
      rw [hexit] at h
      obtain rfl := (Exit.ok.inj h).symm
      exact ⟨rfl, result, rfl, by
        simp [savedDomain, field, Json.get, List.lookup_cons, GraphApi.Handlers.domainJson, Json.asStr]⟩
  | err e =>
      rw [hexit] at h
      cases e <;> (obtain rfl := (Exit.ok.inj h).symm; cases hsuccess)
  | panicked =>
      rw [hexit] at h
      cases h

theorem HttpService.createDomain_success {request : CreateDomainRequest} {response : SaveDomainResponse}
    (h : (env.exec (HttpService.createDomain request) w).exit = .ok response)
    (hsuccess : response.success = true) :
    (env.exec (HttpService.createDomain request) w).state =
        (env.exec (GraphApi.createDomain request) w).state ∧
      ∃ result, (env.exec (GraphApi.createDomain request) w).exit = .ok result ∧
        response.domain = some ⟨result.domainElementId, result.domainName⟩ := by
  rw [HttpService.createDomain, GraphApi.Handlers.createDomain, exec_bind, exec_bind, exec_attempt] at h ⊢
  cases hexit : (env.exec (GraphApi.createDomain request) w).exit with
  | ok result =>
      rw [hexit] at h
      obtain rfl := (Exit.ok.inj h).symm
      exact ⟨rfl, result, rfl, by
        simp [savedDomain, field, Json.get, List.lookup_cons, GraphApi.Handlers.domainJson, Json.asStr]⟩
  | err e =>
      rw [hexit] at h
      cases e <;> (obtain rfl := (Exit.ok.inj h).symm; cases hsuccess)
  | panicked =>
      rw [hexit] at h
      cases h

theorem savedOrError_eq_ok {result : SaveDomainResponse} {default : String} {saved : SavedDomain}
    (h : savedOrError result default = .ok saved) :
    result.success = true ∧ result.domain = some saved := by
  rcases result with ⟨success, domain, error⟩
  cases success with
  | false => cases h
  | true =>
      cases domain with
      | none => cases h
      | some domain => exact ⟨rfl, congrArg some (Except.ok.inj h)⟩

theorem exec_validateDomainName_graph (name : String) :
    (env.exec (HttpService.validateDomainName name) w).state.graph = w.graph := by
  have hkeep (o : Outcome) : o.after (GraphApi.findDomainStatement name) w.graph = w.graph := by
    rw [Outcome.after]
    split <;> rfl
  have hserver : (env.exec (GraphApi.validateDomainName name) w).state.graph = w.graph := by
    rw [GraphApi.validateDomainName, exec_bind, exec_execute, Execution.andThen_ok, hkeep]
    cases (env.outcome w.clock).reply (GraphApi.findDomainStatement name w.graph).1 with
    | error e => rfl
    | ok rs =>
        simp only
        split <;> rfl
  rw [HttpService.validateDomainName, GraphApi.Handlers.validateDomainName, exec_bind, exec_bind,
    exec_attempt]
  cases hexit : (env.exec (GraphApi.validateDomainName name) w).exit with
  | ok validation =>
      simp only [Exit.attempted, Execution.andThen_ok]
      split <;> exact hserver
  | err e => exact hserver
  | panicked => exact hserver

def createOnce (cases : CaseMapping) (domain : EditableDomain) :
    Option Bool → Api (Except String SavedDomain)
  | none => pure (.error "Failed to validate domain name")
  | some false => pure (.error "A domain with this name already exists")
  | some true => do
      let result ← HttpService.createDomain (domainToCreateRequest cases domain)
      return savedOrError result "Failed to create domain"

theorem handleSave_eq (cases : CaseMapping) (creator : DomainCreator) :
    handleSave cases creator =
      if validateDomain creator.domain ≠ [] then
        pure (.error (String.intercalate ". " (validateDomain creator.domain)))
      else if creator.isUpdate then
        HttpService.updateDomain (domainToUpdateRequest cases creator) >>= fun result =>
          pure (savedOrError result "Failed to update domain")
      else
        HttpService.validateDomainName (capitalizeFirstLetter cases creator.domain.name) >>=
          createOnce cases creator.domain := by
  rw [handleSave]
  refine if_congr Iff.rfl rfl (if_congr Iff.rfl rfl ?_)
  refine congrArg _ (funext fun validation => ?_)
  rcases validation with _ | _ | _ <;> rfl

theorem createOnce_eq_ok {cases : CaseMapping} {domain : EditableDomain} {validation : Option Bool}
    {saved : SavedDomain}
    (h : (env.exec (createOnce cases domain validation) w).exit = .ok (.ok saved)) :
    ∃ result,
      (env.exec (GraphApi.createDomain (domainToCreateRequest cases domain)) w).exit = .ok result ∧
      saved = ⟨result.domainElementId, result.domainName⟩ ∧
      (env.exec (createOnce cases domain validation) w).state =
        (env.exec (GraphApi.createDomain (domainToCreateRequest cases domain)) w).state := by
  rcases validation with _ | _ | _
  · cases h
  · cases h
  · rw [createOnce, exec_bind] at h ⊢
    obtain ⟨response, hexit, hsaved⟩ := Execution.exit_andThen_eq_ok h
    obtain ⟨hsuccess, hdomain⟩ := savedOrError_eq_ok (Exit.ok.inj hsaved)
    obtain ⟨hstate, result, hresult, hsame⟩ := HttpService.createDomain_success hexit hsuccess
    refine ⟨result, hresult, Option.some.inj (hdomain.symm.trans hsame), ?_⟩
    rw [Execution.state_andThen hexit, Proc.pure_eq, exec_done, ← hstate]

/-- What a save that navigates on has done: an update, or a creation on the graph it found. -/
theorem handleSave_cases {cases : CaseMapping} {creator : DomainCreator} {saved : SavedDomain}
    (h : (env.exec (handleSave cases creator) w).exit = .ok (.ok saved)) :
    (creator.isUpdate = true ∧ ∃ result,
        (env.exec (GraphApi.updateDomain (domainToUpdateRequest cases creator)) w).exit = .ok result ∧
        saved = ⟨result.domainElementId, result.domainName⟩ ∧
        (env.exec (handleSave cases creator) w).state =
          (env.exec (GraphApi.updateDomain (domainToUpdateRequest cases creator)) w).state) ∨
      (creator.isUpdate = false ∧ ∃ w' result, w'.graph = w.graph ∧
        (env.exec (GraphApi.createDomain (domainToCreateRequest cases creator.domain)) w').exit =
          .ok result ∧
        saved = ⟨result.domainElementId, result.domainName⟩ ∧
        (env.exec (handleSave cases creator) w).state =
          (env.exec (GraphApi.createDomain (domainToCreateRequest cases creator.domain)) w').state) := by
  rw [handleSave_eq] at h ⊢
  split_ifs at h ⊢ with herrors hupdate
  · cases h
  · rw [exec_bind] at h ⊢
    obtain ⟨response, hexit, hsaved⟩ := Execution.exit_andThen_eq_ok h
    obtain ⟨hsuccess, hdomain⟩ := savedOrError_eq_ok (Exit.ok.inj hsaved)
    obtain ⟨hstate, result, hresult, hsame⟩ := HttpService.updateDomain_success hexit hsuccess
    refine Or.inl ⟨hupdate, result, hresult, Option.some.inj (hdomain.symm.trans hsame), ?_⟩
    rw [Execution.state_andThen hexit, Proc.pure_eq, exec_done, ← hstate]
  · rw [exec_bind] at h ⊢
    obtain ⟨validation, hvalidation, hcreate⟩ := Execution.exit_andThen_eq_ok h
    obtain ⟨result, hresult, hsaved, hstate⟩ := createOnce_eq_ok hcreate
    refine Or.inr ⟨by simpa using hupdate, _, result, exec_validateDomainName_graph _, hresult, hsaved, ?_⟩
    rw [Execution.state_andThen hvalidation, hstate]

end AtlasOfUs.Editor
