import AtlasOfUs.Agent.Acceptance
import AtlasOfUs.Library.LossyReading

namespace AtlasOfUs.Agent

open Library GraphApi DomainArchitectStep

section Names

variable (tables : CharTables)

def keyChar (c : Char) : Option Char :=
  if c = ' ' then some '_' else if tables.isAlphanumeric c || c = '_' then some c else none

theorem sanitizeName_eq (domainName : String) :
    sanitizeName tables domainName =
      String.ofList ((tables.toLowercase domainName).toList.filterMap (keyChar tables)) := by
  rw [sanitizeName, ← List.filterMap_eq_filter, List.filterMap_map]
  congr 2
  funext c
  rw [Function.comp_apply, Option.guard, keyChar]
  by_cases hc : c = ' '
  · simp [hc]
  · simp [hc]

def IsBlank (c : Char) : Prop := c = ' ' ∨ c = '_'

def Dropped (c : Char) : Prop := tables.isAlphanumeric c = false ∧ ¬ IsBlank c

def Interchangeable (c d : Char) : Prop := c = d ∨ IsBlank c ∧ IsBlank d

variable {tables} {c : Char}

theorem keyChar_blank (hc : IsBlank c) : keyChar tables c = some '_' := by
  rcases hc with rfl | rfl <;> simp [keyChar]

theorem keyChar_dropped (hc : Dropped tables c) : keyChar tables c = none := by
  obtain ⟨hc, hblank⟩ := hc
  obtain ⟨hspace, hscore⟩ := not_or.1 hblank
  rw [keyChar, if_neg hspace, hc, decide_eq_false hscore]
  rfl

theorem keyChar_kept (hblank : ¬ IsBlank c) (hc : ¬ Dropped tables c) : keyChar tables c = some c := by
  have hkept : tables.isAlphanumeric c = true := by
    by_contra h
    exact hc ⟨Bool.eq_false_of_not_eq_true h, hblank⟩
  rw [keyChar, if_neg (not_or.1 hblank).1, hkept, Bool.true_or, if_pos rfl]

theorem keyChar_cases (tables : CharTables) (c : Char) :
    IsBlank c ∧ keyChar tables c = some '_' ∨ Dropped tables c ∧ keyChar tables c = none ∨
      ¬ IsBlank c ∧ ¬ Dropped tables c ∧ keyChar tables c = some c := by
  by_cases hblank : IsBlank c
  · exact .inl ⟨hblank, keyChar_blank hblank⟩
  · by_cases hc : Dropped tables c
    · exact .inr (.inl ⟨hc, keyChar_dropped hc⟩)
    · exact .inr (.inr ⟨hblank, hc, keyChar_kept hblank hc⟩)

theorem isBlank_underscore : IsBlank '_' := .inr rfl

theorem lossy_keyChar : Lossy (keyChar tables) (Dropped tables) Interchangeable where
  none_iff c := by
    rcases keyChar_cases tables c with ⟨hc, hkey⟩ | ⟨hc, hkey⟩ | ⟨-, hc, hkey⟩
    · simp [hkey, Dropped, hc]
    · simp [hkey, hc]
    · simp [hkey, hc]
  same_iff c d hc := by
    have hcKind := keyChar_cases tables c
    have hdKind := keyChar_cases tables d
    rw [Interchangeable]
    grind [isBlank_underscore, Dropped]

variable (tables)

/-- The names differ at most in the case of letters, in spaces for underscores and
in characters that are neither alphanumeric nor one of these two. -/
def NamesAlike (name name' : String) : Prop :=
  SameReading (Dropped tables) Interchangeable (tables.toLowercase name).toList
    (tables.toLowercase name').toList

def avatarKey (domainName : String) : String :=
  "domains/" ++ sanitizeName tables domainName ++ "/avatar.png"

theorem avatarKey_eq_iff (name name' : String) :
    avatarKey tables name = avatarKey tables name' ↔ NamesAlike tables name name' := by
  rw [avatarKey, avatarKey, String.append_left_inj, String.append_right_inj, sanitizeName_eq,
    sanitizeName_eq, String.ofList_inj]
  exact lossy_keyChar.filterMap_eq_iff

end Names

section Runs

variable {Event Prompt : Type}

def imageKey : Op Event Prompt → Option String
  | .queueImageGeneration job => some job.s3Key
  | _ => none

def QueuesUnder (key : String) (o : Op Event Prompt) : Prop := ∀ k, imageKey o = some k → k = key

def asyncImageKey : ((services Empty AsyncPrompt).plus asyncCalls).Op → Option String :=
  Sum.elim imageKey fun _ => none

variable (tables : CharTables)

theorem keys_queueAvatarGeneration (env : Env) (w : World) (domainName : String)
    (elementId : ElementId) :
    (env.exec (queueAvatarGeneration tables domainName elementId) w).calls.filterMap
        (fun c => imageKey c.1) =
      if env.queueConfigured then [avatarKey tables domainName] else [] := by
  have hasked : env.exec (isQueueConfigured : ContextStep Bool) w =
      ⟨.ok env.queueConfigured, w.tick, [⟨.queueConfigured, env.queueConfigured⟩]⟩ := rfl
  have hqueued : ∀ job, env.exec (queueImageGeneration job : ContextStep _) w.tick =
      ⟨.ok (env.queue w.tick.clock), w.tick.tick,
        [⟨.queueImageGeneration job, env.queue w.tick.clock⟩]⟩ := fun _ => rfl
  rw [queueAvatarGeneration, exec_bind, hasked, Execution.andThen_ok]
  cases env.queueConfigured with
  | false => rfl
  | true =>
      dsimp only
      rw [if_pos rfl, if_pos rfl, exec_bind, hqueued, Execution.andThen_ok]
      cases env.queue w.tick.clock <;> rfl

theorem calls_queueAvatar {ε : Type} (domainName : String) (domainElementId : ElementId) :
    Calls (QueuesUnder (avatarKey tables domainName))
      (AsyncGeneration.queueAvatar tables domainName domainElementId :
        Service Empty AsyncPrompt ε Unit) := by
  apply (Calls.perform fun k hk => by cases hk).bind
  intro configured
  cases configured with
  | false => trivial
  | true => exact (Calls.perform fun k hk => (Option.some.inj hk).symm).bind fun _ => trivial

open AsyncGeneration

variable (codec : AsyncCodec) (request : GenerateDomainRequest)

abbrev AsyncQueuesUnder (key : String) : ((services Empty AsyncPrompt).plus asyncCalls).Op → Prop :=
  Sum.elim (QueuesUnder key) fun _ => True

theorem calls_createDomainAndLevels (key : String) (domainName : String)
    (description : Option String) :
    Calls (QueuesUnder key) (createDomainAndLevels codec.toCodec domainName description) := by
  apply (Contract.toCalls (stores_createDomainAndLevels _ _ _)).weaken
  intro o ho k hk
  cases o with
  | queueImageGeneration job => exact ho.elim
  | _ => cases hk

theorem calls_startGeneration :
    Calls (AsyncQueuesUnder (avatarKey tables request.domainName))
      (startGeneration codec tables request) := by
  refine (Calls.perform trivial).bind fun nanos => ?_
  refine (Calls.mapErr (calls_createDomainAndLevels codec _ _ _).extend).bind fun created => ?_
  refine (calls_queueAvatar tables _ _).extend.bind fun _ => ?_
  refine (calls_conceptualizeAllNodes codec ?_ _ _).mapErr.bind fun concepts => ?_
  · intro prompt k hk
    cases hk
  · exact (calls_queueConcepts _ _).bind fun _ => trivial

theorem calls_generateDomainAsync :
    Calls (AsyncQueuesUnder (avatarKey tables request.domainName))
      (generateDomainAsync codec tables request) := by
  rw [generateDomainAsync]
  split
  · trivial
  · refine (Calls.perform trivial).bind fun configured => ?_
    cases configured with
    | false => trivial
    | true => exact calls_startGeneration tables codec request

/-- A run of one of the two code paths that queue the avatar of a domain. -/
inductive AvatarRun
  | queueAvatarGeneration (env : Env) (w : World) (domainName : String) (elementId : ElementId)
  | generateDomainAsync (codec : AsyncCodec) (env : Env) (async : AsyncEnv) (g : Graph)
      (request : GenerateDomainRequest)

namespace AvatarRun

def domainName : AvatarRun → String
  | .queueAvatarGeneration _ _ domainName _ => domainName
  | .generateDomainAsync _ _ _ _ request => request.domainName

def keys (tables : CharTables) : AvatarRun → List String
  | .queueAvatarGeneration env w domainName elementId =>
      (env.exec (DomainArchitectStep.queueAvatarGeneration tables domainName elementId) w).calls.filterMap
        fun c => imageKey c.1
  | .generateDomainAsync codec env async g request =>
      (execAsync env async (AsyncGeneration.generateDomainAsync codec tables request) g).calls.filterMap
        fun c => asyncImageKey c.1

theorem keys_eq (run : AvatarRun) {key : String} (h : key ∈ run.keys tables) :
    key = avatarKey tables run.domainName := by
  cases run with
  | queueAvatarGeneration env w domainName elementId =>
      rw [keys, keys_queueAvatarGeneration] at h
      split at h
      · exact List.mem_singleton.1 h
      · exact absurd h List.not_mem_nil
  | generateDomainAsync codec env async g request =>
      obtain ⟨c, hc, hkey⟩ := List.mem_filterMap.1 h
      have hallowed := (calls_generateDomainAsync tables codec request).calls_allowed
        (env.handler.plus async.handler) (World.start g, 0) c hc
      obtain ⟨o, reply⟩ := c
      cases o with
      | inl o => exact hallowed key hkey
      | inr o => cases hkey

end AvatarRun

/-- Whichever of the two code paths queues them, two avatars overwrite each other
exactly if the names of their domains are alike. -/
theorem avatarKeys_ne_iff (run run' : AvatarRun) (key key' : String) (h : key ∈ run.keys tables)
    (h' : key' ∈ run'.keys tables) :
    key ≠ key' ↔ ¬ NamesAlike tables run.domainName run'.domainName := by
  rw [run.keys_eq tables h, run'.keys_eq tables h', ne_eq, avatarKey_eq_iff]

def asciiTables : CharTables := ⟨String.toLower, Char.isAlphanum⟩

def imageQueue : Env := { Env.calm with queueConfigured := true }

def streamed (domainName : String) : AvatarRun :=
  .queueAvatarGeneration imageQueue (World.start emptyGraph) domainName (candidateId 0)

def queuedInJobs (domainName : String) : AvatarRun :=
  .generateDomainAsync scalesCodec imageQueue AsyncEnv.calm emptyGraph ⟨domainName, none⟩

theorem keys_chess_go : ("domains/chess/avatar.png" ≠ "domains/go/avatar.png" ↔
    ¬ NamesAlike asciiTables "Chess" "Go") :=
  avatarKeys_ne_iff asciiTables (streamed "Chess") (queuedInJobs "Go") _ _ (by decide +kernel)
    (by decide +kernel)

theorem c_overwritten :
    ¬ ∀ run run' : AvatarRun, 1 ≤ run.domainName.length ∧ run.domainName.length ≤ 100 →
      1 ≤ run'.domainName.length ∧ run'.domainName.length ≤ 100 →
        run.domainName ≠ run'.domainName →
          ∀ key ∈ run.keys asciiTables, ∀ key' ∈ run'.keys asciiTables, key ≠ key' := by
  intro hall
  exact hall (streamed "C") (queuedInJobs "C++") (by decide) (by decide) (by decide)
    "domains/c/avatar.png" (by decide +kernel) "domains/c/avatar.png" (by decide +kernel) rfl

end Runs

end AtlasOfUs.Agent
