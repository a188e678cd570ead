/-
Module: LeadAssistant.Translation.Jobs
Layer: Translation
Purpose: `TranslationJobHandler.execute` (`jobs.py`) and the manager loop around it (`manager.py`).
  The control plane is given by the error code with which each of its calls is raised, if it is.
  `lower` stands for `str.lower`; nothing here depends on what it does.
Trusted boundary: human-reviewed spec
Main exports: ControlPlane, TranslationJobRequest, Execution, TranslationJobHandler.execute,
  Manager.runOnce
-/
import LeadAssistant.Repositories.TranslationLanguages

namespace LeadAssistant

open Relational

def LANGUAGE_ALLOWLIST : List (String × String) :=
  [("de", "German"), ("en", "English"), ("es", "Spanish"), ("fr", "French"), ("it", "Italian"),
    ("pl", "Polish"), ("ru", "Russian"), ("uk", "Ukrainian")]

def REQUIRED_LANGUAGE_CODES : List String := ["en", "ru"]

/-- One control-plane call. -/
inductive PlaneCall where
  | install (languageCode : String)
  | delete (languageCode : String)
  | reload
  | test (languageCode : String)
deriving Repr, DecidableEq

/-- How the control plane answers while one job is executed: the code of the error it raises. -/
structure ControlPlane where
  install : String → Option String
  delete : String → Option String
  reload : Option String
  test : String → Option String

/-- Validated data accepted from the operator UI. -/
structure TranslationJobRequest where
  action : TranslationManagerAction
  languageCode : Option String := none
deriving Repr, DecidableEq

/-- What `execute` has done when it returns or raises: the calls it made, the code of the error,
and what its transaction sees. -/
structure Execution where
  calls : List PlaneCall
  error : Option String
  db : Database

namespace Execution

def done (db : Database) : Execution := ⟨[], none, db⟩

def rejected (errorCode : String) (db : Database) : Execution := ⟨[], some errorCode, db⟩

/-- A control-plane call, and the rest unless it raises. -/
def after (call : PlaneCall) (raised : Option String) (db : Database) (rest : Execution) :
    Execution :=
  match raised with
  | some errorCode => ⟨[call], some errorCode, db⟩
  | none => { rest with calls := call :: rest.calls }

/-- A reload as the last step. -/
def reloaded (plane : ControlPlane) (db : Database) : Execution :=
  after .reload plane.reload db (done db)

end Execution

namespace TranslationJobHandler

open TranslationLanguageRepository Execution

/-- The normalized code of a request; an empty string counts as none. -/
def normalized (lower : String → String) (languageCode : Option String) : Option String :=
  match languageCode with
  | some code => if code = "" then none else some (lower code)
  | none => none

/-- The actions that may not be taken on a required language. -/
def isImmutable (action : TranslationManagerAction) (code : String) : Bool :=
  REQUIRED_LANGUAGE_CODES.contains code &&
    (action = .install || action = .disable || action = .delete)

/-- The part of `execute` after the request is accepted for an allow-listed language. -/
def perform (plane : ControlPlane) (code displayName : String) (now : Time) (db : Database) :
    TranslationManagerAction → Execution
  | .install =>
      let installing := markInstalling code displayName now db
      after (.install code) (plane.install code) installing
        (reloaded plane (markInstalled code now installing))
  | .enable =>
      match enable code now db with
      | (false, db) => rejected "language_not_installed_or_already_enabled" db
      | (true, db) => reloaded plane db
  | .disable =>
      match disable code now db with
      | (false, db) => rejected "required_or_already_disabled" db
      | (true, db) => reloaded plane db
  | .delete =>
      match delete code db with
      | (false, db) => rejected "required_or_unknown_language" db
      | (true, db) => after (.delete code) (plane.delete code) db (reloaded plane db)
  | .test => after (.test code) (plane.test code) db (done db)
  | .reload => rejected "unknown_action" db

def execute (lower : String → String) (plane : ControlPlane) (request : TranslationJobRequest)
    (now : Time) (db : Database) : Execution :=
  let code := normalized lower request.languageCode
  if request.action = .reload then
    if code.isSome then rejected "language_not_allowed_for_reload" db
    else reloaded plane db
  else match code with
    | none => rejected "unknown_language_code" db
    | some code =>
        match LANGUAGE_ALLOWLIST.lookup code with
        | none => rejected "unknown_language_code" db
        | some displayName =>
            if isImmutable request.action code then rejected "required_language_is_immutable" db
            else perform plane code displayName now db request.action

end TranslationJobHandler

namespace Manager

/-- One pass of the loop in `run`. The exception of a job is caught inside the transaction, which
then commits what the job has written. -/
def runOnce (lower : String → String) (plane : ControlPlane) (locked : UUID → Bool) (now : Time)
    (db : Database) : Database :=
  match TranslationManagerJobRepository.claim locked db with
  | none => db
  | some job =>
      let execution := TranslationJobHandler.execute lower plane ⟨job.action, job.languageCode⟩ now
        (TranslationManagerJobRepository.put job db)
      TranslationManagerJobRepository.finish job (execution.error.map clipped) now execution.db

end Manager

end LeadAssistant
