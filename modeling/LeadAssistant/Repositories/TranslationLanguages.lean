/-
Module: LeadAssistant.Repositories.TranslationLanguages
Layer: Repositories
Purpose: `TranslationLanguageRepository` (`translation_languages.py`) and
  `TranslationManagerJobRepository` (`translation_manager_jobs.py`): the configured languages and
  the durable queue of control requests about them.
Trusted boundary: human-reviewed spec
Main exports: TranslationLanguageRepository.seedRequired, disable, enable, markInstalling,
  markInstalled, delete, TranslationManagerJobRepository.claim, finish
-/
import LeadAssistant.Database.Models
import Mathlib.Data.Prod.Lex
import Mathlib.Order.Defs.LinearOrder
import Mathlib.Data.Int.Order.Basic

namespace LeadAssistant

open Relational

namespace TranslationLanguage

/-- `SET installation_status = 'installing', updated_at = now()`. -/
def installing (now : Time) (row : TranslationLanguage) : TranslationLanguage :=
  { row with installationStatus := .installing, updatedAt := now }

/-- The values of `mark_installed`. -/
def installed (now : Time) (row : TranslationLanguage) : TranslationLanguage :=
  { row with
    installationStatus := .installed, isEnabled := true, installedAt := some now,
    updatedAt := now }

theorem installing_code (now : Time) (row : TranslationLanguage) :
    (row.installing now).languageCode = row.languageCode := rfl

theorem installed_code (now : Time) (row : TranslationLanguage) :
    (row.installed now).languageCode = row.languageCode := rfl

end TranslationLanguage

namespace TranslationLanguageRepository

/-- `REQUIRED_LANGUAGES`. -/
def REQUIRED_LANGUAGES : List (String × String) := [("en", "English"), ("ru", "Russian")]

/-- Seed one base language: inserted, or repaired when it is there. -/
def seed (now : Time) (db : Database) (language : String × String) : Database :=
  match db.translationLanguages.insert?
      ⟨language.1, language.2, true, true, .installed, some now, now⟩ with
  | some languages => db.setTranslationLanguages languages
  | none => db.setTranslationLanguages (db.translationLanguages.update language.1 (fun row =>
      { row with
        displayName := language.2, isRequired := true, isEnabled := true,
        installationStatus := .installed, installedAt := some (row.installedAt.getD now),
        updatedAt := now }))

def seedRequired (now : Time) (db : Database) : Database :=
  REQUIRED_LANGUAGES.foldl (seed now) db

/-- The rows that `disable` changes. -/
def disables (languageCode : String) (row : TranslationLanguage) : Bool :=
  row.languageCode = languageCode && !row.isRequired && row.isEnabled

/-- Disable a non-required language, returning whether it changed. -/
def disable (languageCode : String) (now : Time) (db : Database) : Bool × Database :=
  (db.translationLanguages.rows.any (disables languageCode),
    db.setTranslationLanguages (db.translationLanguages.updateWhere (disables languageCode)
      (fun row => { row with isEnabled := false, updatedAt := now }) (fun _ _ => rfl)))

/-- The rows that `enable` changes. -/
def enables (languageCode : String) (row : TranslationLanguage) : Bool :=
  row.languageCode = languageCode && row.installationStatus = .installed && !row.isEnabled

/-- Enable an installed language, returning whether it changed. -/
def enable (languageCode : String) (now : Time) (db : Database) : Bool × Database :=
  (db.translationLanguages.rows.any (enables languageCode),
    db.setTranslationLanguages (db.translationLanguages.updateWhere (enables languageCode)
      (fun row => { row with isEnabled := true, updatedAt := now }) (fun _ _ => rfl)))

/-- Create or transition a non-required language to installing. -/
def markInstalling (languageCode displayName : String) (now : Time) (db : Database) : Database :=
  match db.translationLanguages.insert?
      ⟨languageCode, displayName, false, false, .installing, none, now⟩ with
  | some languages => db.setTranslationLanguages languages
  | none => db.setTranslationLanguages
      (db.translationLanguages.update languageCode (TranslationLanguage.installing now)
        (fun row _ => row.installing_code now))

/-- Persist a successful package installation and enable the language. -/
def markInstalled (languageCode : String) (now : Time) (db : Database) : Database :=
  db.setTranslationLanguages
    (db.translationLanguages.update languageCode (TranslationLanguage.installed now)
      (fun row _ => row.installed_code now))

/-- The rows that `delete` removes. -/
def deletes (languageCode : String) (row : TranslationLanguage) : Bool :=
  row.languageCode = languageCode && !row.isRequired

/-- Delete a non-required language, returning whether it existed. -/
def delete (languageCode : String) (db : Database) : Bool × Database :=
  (db.translationLanguages.rows.any (deletes languageCode),
    db.setTranslationLanguages (db.translationLanguages.deleteWhere (deletes languageCode)))

end TranslationLanguageRepository

namespace TranslationManagerJobRepository

/-- Write one manager job back. -/
def put (job : TranslationManagerJob) (db : Database) : Database :=
  { db with translationManagerJobs := db.translationManagerJobs.put job }

/-- The oldest pending job that no other manager has locked, as it is claimed. -/
def claim (locked : UUID → Bool) (db : Database) : Option TranslationManagerJob :=
  (db.translationManagerJobs.firstBy (fun job => job.status = .pending && !locked job.id)
    (fun job => toLex (job.createdAt, job.id))).map (fun job => { job with status := .processing })

/-- Persist a terminal result. -/
def finish (job : TranslationManagerJob) (resultCode : Option String) (now : Time)
    (db : Database) : Database :=
  put { job with
    status := if resultCode.isNone then .succeeded else .failed, resultCode := resultCode,
    completedAt := some now } db

end TranslationManagerJobRepository

end LeadAssistant
