/-
Module: LeadAssistant.Translation.FailedJobs
Layer: Translation
Purpose: What a job that the manager finishes as FAILED leaves in `translation_languages`. The
  loop commits what a job has written before it fails, so the table is unchanged exactly when no
  control-plane call fails after a write.
Trusted boundary: human-reviewed spec
Main exports: LeavesLanguages, CleanFailure, failed_job_clean_iff, failed_install_leaves_installing
-/
import LeadAssistant.Translation.Jobs

namespace LeadAssistant

open Relational TranslationLanguageRepository Execution

/-- No control-plane call fails after the job has changed the table. A row that already has the
values that are written counts as unchanged. -/
def LeavesLanguages (plane : ControlPlane) (code : String) (now : Time)
    (languages : Table TranslationLanguage.languageCode) : TranslationManagerAction → Prop
  | .install =>
      (plane.install code).isSome ∧
          (∃ row, languages.get? code = some row ∧ row.installing now = row) ∨
        plane.install code = none ∧ (plane.reload = none ∨
          ∃ row, languages.get? code = some row ∧ row.installed now = row)
  | .enable => plane.reload = none ∨ ∀ row ∈ languages, enables code row = false
  | .disable => plane.reload = none ∨ ∀ row ∈ languages, disables code row = false
  | .delete => plane.delete code = none ∧ plane.reload = none ∨
      ∀ row ∈ languages, deletes code row = false
  | .test | .reload => True

/-- The same for a request; one that is rejected at once changes nothing. -/
def CleanFailure (lower : String → String) (plane : ControlPlane) (request : TranslationJobRequest)
    (now : Time) (languages : Table TranslationLanguage.languageCode) : Prop :=
  request.action ≠ .reload →
    ∀ code ∈ TranslationJobHandler.normalized lower request.languageCode,
      (LANGUAGE_ALLOWLIST.lookup code).isSome →
        TranslationJobHandler.isImmutable request.action code = false →
          LeavesLanguages plane code now languages request.action

/-- An execution that failed has left the languages as they were. -/
def Execution.Clean (execution : Execution)
    (languages : Table TranslationLanguage.languageCode) : Prop :=
  execution.error.isSome → execution.db.translationLanguages = languages

section Executions

variable {plane : ControlPlane} {call : PlaneCall} {raised : Option String} {db : Database}
  {rest : Execution} {languages : Table TranslationLanguage.languageCode}

theorem clean_done : (done db).Clean languages := by
  intro failed
  exact absurd failed Bool.false_ne_true

theorem clean_rejected {errorCode : String} :
    (rejected errorCode db).Clean languages ↔ db.translationLanguages = languages := by
  constructor
  · exact fun clean => clean rfl
  · exact fun same _ => same

/-- A call that raises is clean if nothing was written before it. -/
theorem clean_after : (after call raised db rest).Clean languages ↔
    raised.isSome ∧ db.translationLanguages = languages ∨
      raised = none ∧ rest.Clean languages := by
  cases raised with
  | none => simp [after, Clean]
  | some errorCode => simp [after, Clean]

theorem clean_reloaded : (reloaded plane db).Clean languages ↔
    plane.reload = none ∨ db.translationLanguages = languages := by
  unfold reloaded
  rw [clean_after]
  constructor
  · rintro (⟨_, same⟩ | ⟨quiet, _⟩)
    · exact Or.inr same
    · exact Or.inl quiet
  · intro either
    cases raised : plane.reload with
    | none => exact Or.inr ⟨rfl, clean_done⟩
    | some errorCode =>
        rw [raised] at either
        rcases either with quiet | same
        · exact absurd quiet (by simp)
        · exact Or.inl ⟨rfl, same⟩

end Executions

section Languages

variable {code displayName : String} {now : Time} {db : Database}

theorem markInstalling_eq_iff :
    (markInstalling code displayName now db).translationLanguages = db.translationLanguages ↔
      ∃ row, db.translationLanguages.get? code = some row ∧ row.installing now = row := by
  unfold markInstalling
  cases inserted : db.translationLanguages.insert?
      ⟨code, displayName, false, false, .installing, none, now⟩ with
  | some languages =>
      have absent : db.translationLanguages.get? code = none :=
        Table.get?_eq_none_iff.2 (Table.fresh_of_insert? inserted)
      simp [absent, Database.setTranslationLanguages, Table.ne_of_insert? inserted]
  | none =>
      rcases Table.insert?_eq_none_iff.1 inserted with ⟨row, held, same⟩
      have found : db.translationLanguages.get? code = some row :=
        Table.get?_eq_some_iff.2 ⟨held, same⟩
      simp [found, Database.setTranslationLanguages, Table.update_eq_self_iff]

theorem markInstalled_eq_iff :
    (markInstalled code now (markInstalling code displayName now db)).translationLanguages =
        db.translationLanguages ↔
      ∃ row, db.translationLanguages.get? code = some row ∧ row.installed now = row := by
  unfold markInstalled markInstalling
  cases inserted : db.translationLanguages.insert?
      ⟨code, displayName, false, false, .installing, none, now⟩ with
  | some languages =>
      have absent : db.translationLanguages.get? code = none :=
        Table.get?_eq_none_iff.2 (Table.fresh_of_insert? inserted)
      have there := @Table.get?_insert? _ _ _ _ _ _ _ code inserted
      rw [if_pos rfl] at there
      simp only [Database.setTranslationLanguages, absent]
      constructor
      · intro same
        have found := congrArg (fun table : Table TranslationLanguage.languageCode =>
          table.get? code) same
        simp [Table.get?_update, there, absent] at found
      · rintro ⟨row, found, _⟩
        simp at found
  | none =>
      rcases Table.insert?_eq_none_iff.1 inserted with ⟨row, held, same⟩
      have found : db.translationLanguages.get? code = some row :=
        Table.get?_eq_some_iff.2 ⟨held, same⟩
      have overwritten : (row.installing now).installed now = row.installed now := rfl
      simp [found, Database.setTranslationLanguages, Table.update_update,
        Table.update_eq_self_iff, overwritten]

theorem enable_eq_iff : (enable code now db).2.translationLanguages = db.translationLanguages ↔
    ∀ row ∈ db.translationLanguages, enables code row = false := by
  unfold enable Database.setTranslationLanguages
  rw [Table.updateWhere_eq_self_iff]
  apply forall₂_congr
  intro row _
  cases chosen : enables code row with
  | false => simp
  | true =>
      have disabled : row.isEnabled = false := by
        unfold enables at chosen
        simp only [Bool.and_eq_true, Bool.not_eq_true'] at chosen
        exact chosen.2
      simp only [forall_const, Bool.true_eq_false, iff_false]
      intro same
      have flipped := congrArg TranslationLanguage.isEnabled same
      simp [disabled] at flipped

theorem disable_eq_iff : (disable code now db).2.translationLanguages = db.translationLanguages ↔
    ∀ row ∈ db.translationLanguages, disables code row = false := by
  unfold disable Database.setTranslationLanguages
  rw [Table.updateWhere_eq_self_iff]
  apply forall₂_congr
  intro row _
  cases chosen : disables code row with
  | false => simp
  | true =>
      have enabled : row.isEnabled = true := by
        unfold disables at chosen
        simp only [Bool.and_eq_true] at chosen
        exact chosen.2
      simp only [forall_const, Bool.true_eq_false, iff_false]
      intro same
      have flipped := congrArg TranslationLanguage.isEnabled same
      simp [enabled] at flipped

theorem delete_eq_iff : (delete code db).2.translationLanguages = db.translationLanguages ↔
    ∀ row ∈ db.translationLanguages, deletes code row = false :=
  Table.deleteWhere_eq_self_iff

end Languages

section Actions

variable {plane : ControlPlane} {code displayName errorCode : String} {now : Time} {db : Database}
  {languages : Table TranslationLanguage.languageCode}

/-- A conditional change that reports whether it did anything, and what follows it. -/
theorem clean_change {pred : TranslationLanguage → Bool} {changed : Database}
    {rest : Database → Execution}
    (same_iff : changed.translationLanguages = languages ↔ ∀ row ∈ languages, pred row = false) :
    (match (languages.rows.any pred, changed) with
      | (false, db) => rejected errorCode db
      | (true, db) => rest db).Clean languages ↔
      (∀ row ∈ languages, pred row = false) ∨
        (∃ row ∈ languages, pred row = true) ∧ (rest changed).Clean languages := by
  cases any : languages.rows.any pred with
  | false =>
      have spared : ∀ row ∈ languages, pred row = false := by
        intro row held
        simpa using List.any_eq_false.1 any row held
      dsimp only
      rw [clean_rejected, same_iff]
      constructor
      · exact Or.inl
      · exact fun _ => spared
  | true =>
      have changes : ∃ row ∈ languages, pred row = true := List.any_eq_true.1 any
      rcases changes with ⟨row, held, chosen⟩
      dsimp only
      constructor
      · exact fun clean => Or.inr ⟨⟨row, held, chosen⟩, clean⟩
      · rintro (spared | ⟨_, clean⟩)
        · simp [spared row held] at chosen
        · exact clean

/-- Such a change, followed by a reload alone. -/
theorem clean_change_reloaded {pred : TranslationLanguage → Bool} {changed : Database}
    (same_iff : changed.translationLanguages = languages ↔ ∀ row ∈ languages, pred row = false) :
    (match (languages.rows.any pred, changed) with
      | (false, db) => rejected errorCode db
      | (true, db) => reloaded plane db).Clean languages ↔
      plane.reload = none ∨ ∀ row ∈ languages, pred row = false := by
  rw [clean_change same_iff, clean_reloaded, same_iff]
  by_cases spared : ∀ row ∈ languages, pred row = false
  · exact iff_of_true (Or.inl spared) (Or.inr spared)
  · have changes : ∃ row ∈ languages, pred row = true := by
      simpa using spared
    simp only [spared, changes, false_or, or_false, true_and]

theorem perform_clean_iff (action : TranslationManagerAction) :
    (TranslationJobHandler.perform plane code displayName now db action).Clean
        db.translationLanguages ↔
      LeavesLanguages plane code now db.translationLanguages action := by
  cases action with
  | install =>
      unfold TranslationJobHandler.perform LeavesLanguages
      dsimp only
      rw [clean_after, clean_reloaded, markInstalling_eq_iff, markInstalled_eq_iff]
  | enable => exact clean_change_reloaded enable_eq_iff
  | disable => exact clean_change_reloaded disable_eq_iff
  | delete =>
      apply (clean_change delete_eq_iff).trans
      unfold LeavesLanguages
      rw [clean_after, clean_reloaded, delete_eq_iff]
      by_cases spared : ∀ row ∈ db.translationLanguages, deletes code row = false
      · exact iff_of_true (Or.inl spared) (Or.inr spared)
      · have changes : ∃ row ∈ db.translationLanguages, deletes code row = true := by
          simpa using spared
        simp only [spared, changes, false_or, or_false, and_false, true_and]
  | test =>
      simp only [TranslationJobHandler.perform, LeavesLanguages, iff_true]
      rw [clean_after]
      cases plane.test code with
      | none => exact Or.inr ⟨rfl, clean_done⟩
      | some errorCode => exact Or.inl ⟨rfl, rfl⟩
  | reload => exact clean_rejected.trans (iff_of_true rfl trivial)

theorem execute_clean_iff {lower : String → String} {request : TranslationJobRequest} :
    (TranslationJobHandler.execute lower plane request now db).Clean db.translationLanguages ↔
      CleanFailure lower plane request now db.translationLanguages := by
  have rejected_clean : ∀ errorCode, (rejected errorCode db).Clean db.translationLanguages :=
    fun errorCode => clean_rejected.2 rfl
  unfold TranslationJobHandler.execute CleanFailure
  dsimp only
  by_cases reload : request.action = .reload
  · rw [if_pos reload]
    apply iff_of_true _ (fun other => absurd reload other)
    split
    · exact rejected_clean _
    · exact clean_reloaded.2 (Or.inr rfl)
  · rw [if_neg reload]
    cases normal : TranslationJobHandler.normalized lower request.languageCode with
    | none =>
        dsimp only
        apply iff_of_true (rejected_clean _)
        intro _ code known
        simp at known
    | some code =>
        dsimp only
        cases listed : LANGUAGE_ALLOWLIST.lookup code with
        | none =>
            apply iff_of_true (rejected_clean _)
            intro _ other same
            simp only [Option.mem_def, Option.some.injEq] at same
            subst same
            simp [listed]
        | some displayName =>
            dsimp only
            cases immutable : TranslationJobHandler.isImmutable request.action code with
            | true =>
                apply iff_of_true (rejected_clean _)
                intro _ other same
                simp only [Option.mem_def, Option.some.injEq] at same
                subst same
                simp [immutable]
            | false =>
                simp only [Bool.false_eq_true, if_false]
                rw [perform_clean_iff]
                constructor
                · intro leaves _ other same _ _
                  simp only [Option.mem_def, Option.some.injEq] at same
                  exact same ▸ leaves
                · intro clean
                  exact clean reload code rfl (by rw [listed]; rfl) immutable

end Actions

section Manager

variable {lower : String → String} {plane : ControlPlane} {code displayName : String}
  {request : TranslationJobRequest} {now : Time} {db : Database}

theorem after_jobs {call : PlaneCall} {raised : Option String} {rest : Execution}
    (later : rest.db.translationManagerJobs = db.translationManagerJobs) :
    (after call raised db rest).db.translationManagerJobs = db.translationManagerJobs := by
  cases raised with
  | none => exact later
  | some errorCode => rfl

theorem change_jobs {changed : Bool} {after : Database} {errorCode : String}
    {rest : Database → Execution} (first : after.translationManagerJobs = db.translationManagerJobs)
    (later : (rest after).db.translationManagerJobs = after.translationManagerJobs) :
    (match (changed, after) with
      | (false, db) => rejected errorCode db
      | (true, db) => rest db).db.translationManagerJobs = db.translationManagerJobs := by
  cases changed with
  | false => exact first
  | true => exact later.trans first

theorem markInstalling_jobs :
    (markInstalling code displayName now db).translationManagerJobs = db.translationManagerJobs := by
  unfold markInstalling
  split <;> rfl

/-- A job does not touch the queue of jobs. -/
theorem perform_jobs (action : TranslationManagerAction) :
    (TranslationJobHandler.perform plane code displayName now db action).db.translationManagerJobs =
      db.translationManagerJobs := by
  cases action with
  | install =>
      rw [← @markInstalling_jobs code displayName now db]
      exact after_jobs (after_jobs rfl)
  | enable => exact change_jobs rfl (after_jobs rfl)
  | disable => exact change_jobs rfl (after_jobs rfl)
  | delete => exact change_jobs rfl (after_jobs (after_jobs rfl))
  | test => exact after_jobs rfl
  | reload => rfl

theorem execute_jobs :
    (TranslationJobHandler.execute lower plane request now db).db.translationManagerJobs =
      db.translationManagerJobs := by
  unfold TranslationJobHandler.execute
  dsimp only
  split
  · split
    · rfl
    · exact after_jobs rfl
  · split
    · rfl
    · split
      · rfl
      · split
        · rfl
        · exact perform_jobs request.action

/-- The manager finishes a job as FAILED exactly when its execution raised. -/
theorem finish_failed_iff {job : TranslationManagerJob} {resultCode : Option String}
    (held : (db.translationManagerJobs.get? job.id).isSome) :
    ((TranslationManagerJobRepository.finish job resultCode now db).translationManagerJobs.get?
        job.id).any (fun row => row.status = .failed) = true ↔ resultCode.isSome := by
  let finished : TranslationManagerJob :=
    { job with
      status := if resultCode.isNone then .succeeded else .failed, resultCode := resultCode,
      completedAt := some now }
  have stored : (db.translationManagerJobs.put finished).get? finished.id = some finished :=
    Table.get?_put_self held
  have found : (TranslationManagerJobRepository.finish job resultCode now
      db).translationManagerJobs.get? job.id = some finished := stored
  rw [found]
  cases resultCode <;> simp [finished]

end Manager

/-- A job that the manager finishes as FAILED leaves the languages as they were, if and only if no
control-plane call of the job fails after it has changed the table. -/
theorem failed_job_clean_iff {lower : String → String} {plane : ControlPlane}
    {locked : UUID → Bool} {now : Time} {db : Database} {job : TranslationManagerJob}
    (claimed : TranslationManagerJobRepository.claim locked db = some job) :
    (((Manager.runOnce lower plane locked now db).translationManagerJobs.get? job.id).any
        (fun row => row.status = .failed) = true →
      (Manager.runOnce lower plane locked now db).translationLanguages =
        db.translationLanguages) ↔
    CleanFailure lower plane ⟨job.action, job.languageCode⟩ now db.translationLanguages := by
  have there : (db.translationManagerJobs.get? job.id).isSome := by
    rcases Option.map_eq_some_iff.1 claimed with ⟨row, first, rfl⟩
    rw [Table.get?_of_mem (Table.mem_of_firstBy first).1]
    rfl
  let before := TranslationManagerJobRepository.put job db
  have put_there : (before.translationManagerJobs.get? job.id).isSome := by
    have stored : before.translationManagerJobs.get? job.id = some job := Table.get?_put_self there
    rw [stored]
    rfl
  have executed_there : ((TranslationJobHandler.execute lower plane ⟨job.action, job.languageCode⟩
      now before).db.translationManagerJobs.get? job.id).isSome := by
    rw [execute_jobs]
    exact put_there
  have clean := @execute_clean_iff plane now before lower ⟨job.action, job.languageCode⟩
  unfold Manager.runOnce
  rw [claimed]
  dsimp only
  rw [finish_failed_iff executed_there, Option.isSome_map]
  exact clean

/-- Base languages, German installed, and one pending job. -/
def sampleLanguages (action : TranslationManagerAction) (languageCode : String) : Database where
  translationLanguages := ⟨[⟨"en", "English", true, true, .installed, some 0, 0⟩,
    ⟨"ru", "Russian", true, true, .installed, some 0, 0⟩,
    ⟨"de", "German", false, true, .installed, some 5, 5⟩], by decide⟩
  translationManagerJobs := ⟨[⟨1, action, some languageCode, .pending, none, 10, none⟩],
    List.nodup_singleton _⟩

/-- A control plane whose package commands fail. -/
def brokenPlane : ControlPlane where
  install _ := some "RuntimeError"
  delete _ := some "RuntimeError"
  reload := none
  test _ := none

/-- Enabling a language that is enabled already is rejected before any change. -/
theorem failed_job_clean_iff_sample :
    (Manager.runOnce id brokenPlane (fun _ => false) 20 (sampleLanguages .enable "de")
      |>.translationLanguages) = (sampleLanguages .enable "de").translationLanguages := by
  have claimed : TranslationManagerJobRepository.claim (fun _ => false)
      (sampleLanguages .enable "de") =
        some ⟨1, .enable, some "de", .processing, none, 10, none⟩ := by decide
  apply (@failed_job_clean_iff id brokenPlane (fun _ => false) 20 _ _ claimed).2
  · intro _ code _ _ _
    exact Or.inl rfl
  · decide

/-- The packages of Polish cannot be installed. The job is finished as FAILED and commits a row for
Polish that stays `installing`. -/
theorem failed_install_leaves_installing :
    ((Manager.runOnce id brokenPlane (fun _ => false) 20
        (sampleLanguages .install "pl")).translationManagerJobs.get? 1).map
      (fun row => (row.status, row.resultCode)) = some (.failed, some "RuntimeError") ∧
    (sampleLanguages .install "pl").translationLanguages.get? "pl" = none ∧
    (Manager.runOnce id brokenPlane (fun _ => false) 20
        (sampleLanguages .install "pl")).translationLanguages.get? "pl" =
      some ⟨"pl", "Polish", false, false, .installing, none, 20⟩ := by
  decide +kernel

end LeadAssistant
