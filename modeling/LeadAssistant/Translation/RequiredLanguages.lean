/-
Module: LeadAssistant.Translation.RequiredLanguages
Layer: Translation
Purpose: The base languages under any sequence of manager jobs and seeds, and the calls that reach
  the control plane meanwhile. The protection of a base language is spread over `isImmutable`, the
  conditions of the statements on `is_required` and `is_enabled`, and the allow-list; `Safe` says
  of one execution what they achieve together, whatever its call fails with.
Trusted boundary: human-reviewed spec
Main exports: Protected, BaseLanguages, Allowed, Event, step, required_languages_immutable
-/
import LeadAssistant.Translation.Jobs
import LeadAssistant.Library.Transition

namespace LeadAssistant

open Relational Transition TranslationLanguageRepository

/-- A language that is required, enabled and installed. -/
def Protected (row : TranslationLanguage) : Prop :=
  row.isRequired = true ∧ row.isEnabled = true ∧ row.installationStatus = .installed

/-- Every base language is there and protected. -/
def BaseLanguages (languages : Table TranslationLanguage.languageCode) : Prop :=
  ∀ code ∈ REQUIRED_LANGUAGE_CODES, ∃ row, languages.get? code = some row ∧ Protected row

/-- A code that the allow-list has a name for. -/
def Listed (code : String) : Prop := (LANGUAGE_ALLOWLIST.lookup code).isSome

/-- A control-plane call as the operators may cause it. -/
def Allowed : PlaneCall → Prop
  | .install code | .delete code => Listed code ∧ code ∉ REQUIRED_LANGUAGE_CODES
  | .test code => Listed code
  | .reload => True

namespace BaseLanguages

variable {languages later : Table TranslationLanguage.languageCode}

/-- An update that leaves the protected rows of base languages alone. -/
theorem updateWhere (base : BaseLanguages languages) {p : TranslationLanguage → Bool}
    {f : TranslationLanguage → TranslationLanguage}
    {keeps : ∀ row, p row = true → (f row).languageCode = row.languageCode}
    (spared : ∀ row, Protected row → row.languageCode ∈ REQUIRED_LANGUAGE_CODES →
      p row = false) : BaseLanguages (languages.updateWhere p f keeps) := by
  intro code required
  rcases base code required with ⟨row, found, kept⟩
  have skipped : p row = false := spared row kept (Table.key_of_get? found ▸ required)
  refine ⟨row, ?_, kept⟩
  rw [Table.get?_updateWhere, found]
  simp [skipped]

/-- A deletion that leaves them alone. -/
theorem deleteWhere (base : BaseLanguages languages) {p : TranslationLanguage → Bool}
    (spared : ∀ row, Protected row → p row = false) :
    BaseLanguages (languages.deleteWhere p) := by
  intro code required
  rcases base code required with ⟨row, found, kept⟩
  refine ⟨row, ?_, kept⟩
  rw [Table.get?_deleteWhere, found]
  simp [spared row kept]

/-- An update of a language that is not a base language. -/
theorem update (base : BaseLanguages languages) {code : String}
    {f : TranslationLanguage → TranslationLanguage}
    {keeps : ∀ row, row.languageCode = code → (f row).languageCode = row.languageCode}
    (other : code ∉ REQUIRED_LANGUAGE_CODES) : BaseLanguages (languages.update code f keeps) := by
  refine base.updateWhere (fun row _ required => ?_)
  have ne : row.languageCode ≠ code := fun same => other (same ▸ required)
  simp [ne]

/-- A language that was not there before. -/
theorem insert? (base : BaseLanguages languages) {row : TranslationLanguage}
    (inserted : languages.insert? row = some later) : BaseLanguages later := by
  intro code required
  rcases base code required with ⟨old, found, kept⟩
  have ne : code ≠ row.languageCode := by
    have fresh := Table.fresh_of_insert? inserted old (Table.mem_of_get? found)
    exact fun same => fresh ((Table.key_of_get? found).trans same)
  exact ⟨old, by rw [Table.get?_insert? inserted, if_neg ne, found], kept⟩

end BaseLanguages

section Repository

variable {code displayName : String} {now : Time} {db : Database}

/-- Seeding a language protects it, whatever its row was. -/
theorem seed_protects (language : String × String) :
    ∃ row, (seed now db language).translationLanguages.get? language.1 = some row ∧
      Protected row := by
  unfold seed
  cases inserted : db.translationLanguages.insert?
      ⟨language.1, language.2, true, true, .installed, some now, now⟩ with
  | some languages =>
      have found := Table.get?_insert? inserted (k := language.1)
      exact ⟨_, found.trans (if_pos rfl), rfl, rfl, rfl⟩
  | none =>
      rcases Table.insert?_eq_none_iff.1 inserted with ⟨row, held, same⟩
      have found : db.translationLanguages.get? language.1 = some row :=
        Table.get?_eq_some_iff.2 ⟨held, same⟩
      dsimp only [Database.setTranslationLanguages]
      rw [Table.get?_update, if_pos rfl, found, Option.map_some]
      exact ⟨_, rfl, rfl, rfl, rfl⟩

theorem seed_other {language : String × String} (other : code ≠ language.1) :
    (seed now db language).translationLanguages.get? code =
      db.translationLanguages.get? code := by
  unfold seed
  cases inserted : db.translationLanguages.insert?
      ⟨language.1, language.2, true, true, .installed, some now, now⟩ with
  | some languages => exact (Table.get?_insert? inserted).trans (if_neg other)
  | none =>
      dsimp only [Database.setTranslationLanguages]
      rw [Table.get?_update, if_neg other]

/-- `seed_required` makes the base languages what they must be from any table. -/
theorem seedRequired_base : BaseLanguages (seedRequired now db).translationLanguages := by
  intro code required
  simp only [REQUIRED_LANGUAGE_CODES, List.mem_cons, List.not_mem_nil, or_false] at required
  rcases required with rfl | rfl
  · rcases @seed_protects now db ("en", "English") with ⟨row, found, kept⟩
    have later := @seed_other "en" now (seed now db ("en", "English")) ("ru", "Russian") (by decide)
    exact ⟨row, later.trans found, kept⟩
  · exact seed_protects ("ru", "Russian")

theorem enable_base (base : BaseLanguages db.translationLanguages) :
    BaseLanguages (enable code now db).2.translationLanguages := by
  unfold enable
  dsimp only [Database.setTranslationLanguages]
  refine base.updateWhere ?_
  rintro row ⟨_, enabled, _⟩ _
  simp [enables, enabled]

theorem disable_base (base : BaseLanguages db.translationLanguages) :
    BaseLanguages (disable code now db).2.translationLanguages := by
  unfold disable
  dsimp only [Database.setTranslationLanguages]
  refine base.updateWhere ?_
  rintro row ⟨isRequired, _⟩ _
  simp [disables, isRequired]

theorem delete_base (base : BaseLanguages db.translationLanguages) :
    BaseLanguages (delete code db).2.translationLanguages := by
  apply base.deleteWhere
  rintro row ⟨isRequired, _⟩
  simp [deletes, isRequired]

theorem markInstalling_base (base : BaseLanguages db.translationLanguages)
    (other : code ∉ REQUIRED_LANGUAGE_CODES) :
    BaseLanguages (markInstalling code displayName now db).translationLanguages := by
  unfold markInstalling
  cases inserted : db.translationLanguages.insert?
      ⟨code, displayName, false, false, .installing, none, now⟩ with
  | some languages => exact base.insert? inserted
  | none =>
      dsimp only [Database.setTranslationLanguages]
      exact base.update other

theorem markInstalled_base (base : BaseLanguages db.translationLanguages)
    (other : code ∉ REQUIRED_LANGUAGE_CODES) :
    BaseLanguages (markInstalled code now db).translationLanguages := by
  unfold markInstalled
  dsimp only [Database.setTranslationLanguages]
  exact base.update other

end Repository

namespace Execution

/-- The base languages are as they must be when the execution returns or raises, and every call it
has made is an allowed one. -/
structure Safe (execution : Execution) : Prop where
  base : BaseLanguages execution.db.translationLanguages
  calls : ∀ call ∈ execution.calls, Allowed call

variable {plane : ControlPlane} {call : PlaneCall} {raised : Option String} {db : Database}
  {rest : Execution} {errorCode : String}

theorem safe_done (base : BaseLanguages db.translationLanguages) : (done db).Safe :=
  ⟨base, fun _ called => absurd called List.not_mem_nil⟩

theorem safe_rejected (base : BaseLanguages db.translationLanguages) :
    (rejected errorCode db).Safe :=
  ⟨base, fun _ called => absurd called List.not_mem_nil⟩

theorem safe_after (allowed : Allowed call) (base : BaseLanguages db.translationLanguages)
    (safe : rest.Safe) : (after call raised db rest).Safe := by
  cases raised with
  | none =>
      refine ⟨safe.base, fun other called => ?_⟩
      rcases List.mem_cons.1 called with rfl | later
      · exact allowed
      · exact safe.calls other later
  | some errorCode =>
      refine ⟨base, fun other called => ?_⟩
      rw [List.mem_singleton.1 called]
      exact allowed

theorem safe_reloaded (base : BaseLanguages db.translationLanguages) : (reloaded plane db).Safe :=
  safe_after trivial base (safe_done base)

/-- A conditional change that reports whether it did anything, and what follows it. -/
theorem safe_change {changed : Bool} {rest : Database → Execution}
    (base : BaseLanguages db.translationLanguages) (safe : (rest db).Safe) :
    (match (changed, db) with
      | (false, db) => rejected errorCode db
      | (true, db) => rest db).Safe := by
  cases changed with
  | false => exact safe_rejected base
  | true => exact safe

end Execution

namespace TranslationJobHandler

open Execution

variable {lower : String → String} {plane : ControlPlane} {code displayName : String} {now : Time}
  {db : Database}

/-- A base language is not installed, disabled or deleted. -/
theorem not_required_of_mutable {action : TranslationManagerAction}
    (isMutable : isImmutable action code = false)
    (changes : action = .install ∨ action = .disable ∨ action = .delete) :
    code ∉ REQUIRED_LANGUAGE_CODES := by
  intro required
  have known : REQUIRED_LANGUAGE_CODES.contains code = true := List.contains_iff_mem.2 required
  simp only [isImmutable, known, Bool.true_and] at isMutable
  rcases changes with rfl | rfl | rfl <;> simp at isMutable

theorem perform_safe {action : TranslationManagerAction} (listed : Listed code)
    (isMutable : isImmutable action code = false)
    (base : BaseLanguages db.translationLanguages) :
    (perform plane code displayName now db action).Safe := by
  cases action with
  | install =>
      have other := not_required_of_mutable isMutable (Or.inl rfl)
      have installing := @markInstalling_base code displayName now db base other
      have installed := @markInstalled_base code now _ installing other
      exact safe_after ⟨listed, other⟩ installing (safe_reloaded installed)
  | enable =>
      have enabled := @enable_base code now db base
      exact safe_change enabled (safe_reloaded enabled)
  | disable =>
      have disabled := @disable_base code now db base
      exact safe_change disabled (safe_reloaded disabled)
  | delete =>
      have other := not_required_of_mutable isMutable (Or.inr (Or.inr rfl))
      have deleted := @delete_base code db base
      exact safe_change deleted (safe_after ⟨listed, other⟩ deleted (safe_reloaded deleted))
  | test => exact safe_after listed base (safe_done base)
  | reload => exact safe_rejected base

/-- One request, of any action and any code string, is executed safely. -/
theorem execute_safe (request : TranslationJobRequest)
    (base : BaseLanguages db.translationLanguages) :
    (execute lower plane request now db).Safe := by
  unfold execute
  dsimp only
  split
  · split
    · exact safe_rejected base
    · exact safe_reloaded base
  · split
    · exact safe_rejected base
    · rename_i code _
      split
      · exact safe_rejected base
      · rename_i displayName listed
        have allowListed : Listed code := by
          unfold Listed
          rw [listed]
          rfl
        split
        · exact safe_rejected base
        · rename_i isMutable
          exact perform_safe allowListed (by simpa using isMutable) base

end TranslationJobHandler

namespace LanguageManager

/-- The committed contents, and every control-plane call made so far. -/
structure State where
  db : Database
  calls : List PlaneCall

/-- What happens to the languages. A job can be queued with any action and code. -/
inductive Event where
  | seeded (now : Time)
  | queued (jobs : Table TranslationManagerJob.id)
  | pass (plane : ControlPlane) (locked : UUID → Bool) (now : Time)
  | crashed (plane : ControlPlane) (locked : UUID → Bool) (now : Time) (made : Nat)

/-- The calls of one pass of the manager's loop. -/
def callsOnce (lower : String → String) (plane : ControlPlane) (locked : UUID → Bool) (now : Time)
    (db : Database) : List PlaneCall :=
  match TranslationManagerJobRepository.claim locked db with
  | none => []
  | some job =>
      (TranslationJobHandler.execute lower plane ⟨job.action, job.languageCode⟩ now
        (TranslationManagerJobRepository.put job db)).calls

/-- One event. A manager that stops before its commit has made some of its calls. -/
def step (lower : String → String) (s : State) : Event → Option State
  | .seeded now => some { s with db := seedRequired now s.db }
  | .queued jobs => some { s with db := { s.db with translationManagerJobs := jobs } }
  | .pass plane locked now =>
      some ⟨Manager.runOnce lower plane locked now s.db,
        s.calls ++ callsOnce lower plane locked now s.db⟩
  | .crashed plane locked now made =>
      some { s with calls := s.calls ++ (callsOnce lower plane locked now s.db).take made }

/-- The seeded table, before any call. -/
def start (now : Time) (db : Database) : State := ⟨seedRequired now db, []⟩

/-- The base languages are in place and every call was allowed. -/
structure Guarded (s : State) : Prop where
  base : BaseLanguages s.db.translationLanguages
  calls : ∀ call ∈ s.calls, Allowed call

variable {lower : String → String} {plane : ControlPlane} {locked : UUID → Bool} {now : Time}
  {db : Database}

theorem runOnce_base (base : BaseLanguages db.translationLanguages) :
    BaseLanguages (Manager.runOnce lower plane locked now db).translationLanguages := by
  unfold Manager.runOnce
  cases TranslationManagerJobRepository.claim locked db with
  | none => exact base
  | some job =>
      have safe := @TranslationJobHandler.execute_safe lower plane now
        (TranslationManagerJobRepository.put job db) ⟨job.action, job.languageCode⟩ base
      exact safe.base

theorem callsOnce_allowed (base : BaseLanguages db.translationLanguages) :
    ∀ call ∈ callsOnce lower plane locked now db, Allowed call := by
  unfold callsOnce
  cases TranslationManagerJobRepository.claim locked db with
  | none => exact fun _ called => absurd called List.not_mem_nil
  | some job =>
      have safe := @TranslationJobHandler.execute_safe lower plane now
        (TranslationManagerJobRepository.put job db) ⟨job.action, job.languageCode⟩ base
      exact safe.calls

namespace Guarded

variable {s t : State} {e : Event}

theorem step (guarded : Guarded s) (next : step lower s e = some t) : Guarded t := by
  have called : ∀ {calls : List PlaneCall}, (∀ call ∈ calls, Allowed call) →
      ∀ call ∈ s.calls ++ calls, Allowed call := by
    intro calls allowed call held
    rcases List.mem_append.1 held with before | now
    · exact guarded.calls call before
    · exact allowed call now
  cases e with
  | seeded now =>
      cases next
      exact ⟨seedRequired_base, guarded.calls⟩
  | queued jobs =>
      cases next
      exact ⟨guarded.base, guarded.calls⟩
  | pass plane locked now =>
      cases next
      exact ⟨runOnce_base guarded.base, called (callsOnce_allowed guarded.base)⟩
  | crashed plane locked now made =>
      cases next
      have made_allowed : ∀ call ∈ (callsOnce lower plane locked now s.db).take made,
          Allowed call :=
        fun call taken => callsOnce_allowed guarded.base call (List.mem_of_mem_take taken)
      exact ⟨guarded.base, called made_allowed⟩

end Guarded

/-- From the seeded table on, whatever jobs are queued and however the control plane fails, the base
languages stay present, required, enabled and installed, and the control plane is only called as it
may be. -/
theorem required_languages_immutable {now : Time} {db : Database} {es : List Event} {s : State}
    (run : Run (step lower) anyEvent (start now db) es s) :
    BaseLanguages s.db.translationLanguages ∧ ∀ call ∈ s.calls, Allowed call := by
  have guarded : Guarded s :=
    run.invariant ⟨seedRequired_base, fun _ called => absurd called List.not_mem_nil⟩
      (fun _ _ _ guarded _ next => guarded.step next)
  exact ⟨guarded.base, guarded.calls⟩

/-- Requests against a base language, with a command fragment, and for a package. -/
def sampleJobs : Table TranslationManagerJob.id where
  rows := [⟨1, .delete, some "EN", .pending, none, 10, none⟩,
    ⟨2, .install, some "pl; reboot", .pending, none, 20, none⟩,
    ⟨3, .install, some "PL", .pending, none, 30, none⟩]
  keysNodup := by decide

/-- A control plane that works. -/
def workingPlane : ControlPlane := ⟨fun _ => none, fun _ => none, none, fun _ => none⟩

/-- Of three requests, one reaches the control plane. -/
theorem required_languages_immutable_sample : ∃ s : State,
    (BaseLanguages s.db.translationLanguages ∧ ∀ call ∈ s.calls, Allowed call) ∧
      s.calls = [.install "pl", .reload] ∧
      s.db.translationManagerJobs.rows.map (fun job => job.resultCode) =
        [some "required_language_is_immutable", some "unknown_language_code", none] := by
  have computed : (exec (step String.toLower) anyEvent (start 0 {}) [.queued sampleJobs,
      .pass workingPlane (fun _ => false) 40, .pass workingPlane (fun _ => false) 50,
      .seeded 60, .pass workingPlane (fun _ => false) 70]).map (fun s =>
        (s.calls, s.db.translationManagerJobs.rows.map (fun job => job.resultCode))) =
      some ([.install "pl", .reload],
        [some "required_language_is_immutable", some "unknown_language_code", none]) := by
    decide +kernel
  rcases Run.exists_of_exec computed with ⟨s, run, value⟩
  simp only [Prod.mk.injEq] at value
  exact ⟨s, required_languages_immutable run, value⟩

end LanguageManager

end LeadAssistant
