import SafeCameroon.Api.OrganizationAccess
import SafeCameroon.Application.AttachmentWorkflow
import SafeCameroon.Library.Journal
import SafeCameroon.Postgres.Attachments

namespace SafeCameroon.Attachments

open Table Process

inductive Call where
  | incident (call : Incidents.Call)
  | reportExists (id : ReportId)
  | create (attachment : Attachment)
  | findById (id : AttachmentId)
  | findByReportId (id : ReportId)
  | organizationForActor (actorId : Option Uuid)
  | insertDownloadAccess (row : AuditRow)
  | createUploadUrl (objectKey : String) (contentType : AttachmentContentType)
  | createDownloadUrl (objectKey : String)

@[reducible] def Call.Res : Call → Type
  | .incident call => call.Res
  | .reportExists _ => Bool
  | .create _ => Unit
  | .findById _ => Option Attachment
  | .findByReportId _ => List Attachment
  | .organizationForActor _ => Option OrganizationId
  | .insertDownloadAccess _ => Unit
  | .createUploadUrl _ _ => Except StorageError SignedUrl
  | .createDownloadUrl _ => Except StorageError SignedUrl

@[reducible] def attachmentInterface : Interface := { Op := Call, Res := Call.Res, Err := Failure }

variable (storage : AttachmentStorage)

def runCall (env : Incidents.Env) :
    (call : Call) → AttachmentStore → Except Failure call.Res × AttachmentStore
  | .incident call, store =>
      let (answer, db) := Incidents.runCall env call store.db
      (answer, { store with db })
  | .reportExists id, store => query env.fault .database
      (fun store => .ok (PostgresReportRepository.findById id store.db).isSome) store
  | .create attachment, store => transaction env.fault .database
      (PostgresAttachmentRepository.create env.now attachment) store
  | .findById id, store => query env.fault .database (PostgresAttachmentRepository.findById id) store
  | .findByReportId id, store => query env.fault .database
      (PostgresAttachmentRepository.findByReportId env.tie id) store
  | .organizationForActor actorId, store => query env.fault .database
      (fun store => .ok (organizationIdForActor actorId store.db)) store
  | .insertDownloadAccess row, store => transaction env.fault .database
      (PostgresAttachmentRepository.insertDownloadAccess row) store
  | .createUploadUrl objectKey contentType, store =>
      (.ok (storage.createUploadUrl (env.now / second) objectKey contentType), store)
  | .createDownloadUrl objectKey, store =>
      (.ok (storage.createDownloadUrl (env.now / second) objectKey), store)

/-- The tables with every call so far, the latest first. -/
abbrev World := Journal attachmentInterface AttachmentStore

abbrev Entry := Process.Entry attachmentInterface

namespace World

def execute (pid : Nat) (call : Call) (env : Incidents.Env) (world : World) :
    Except Failure call.Res × World :=
  ((runCall storage env call world.store).1,
    { store := (runCall storage env call world.store).2
      clock := env.now
      history := ⟨pid, call, (runCall storage env call world.store).1, env.now⟩ :: world.history })

variable {storage}

@[simp] theorem execute_store (pid : Nat) (call : Call) (env : Incidents.Env) (world : World) :
    (world.execute storage pid call env).2.store = (runCall storage env call world.store).2 := rfl

@[simp] theorem execute_history (pid : Nat) (call : Call) (env : Incidents.Env) (world : World) :
    (world.execute storage pid call env).2.history =
      ⟨pid, call, (runCall storage env call world.store).1, env.now⟩ :: world.history := rfl

end World

@[reducible] def attachmentMachine : Machine attachmentInterface where
  State := World
  Env := Incidents.Env
  execute := World.execute storage

def recorded : Process.Recorded (attachmentMachine storage) where
  trace := Journal.trace
  own := fun pid call env world => by simp [Journal.trace, World.execute]
  other := fun pid other call env world differs => by
    simp [Journal.trace, World.execute, Ne.symm differs]

abbrev Handler := Proc attachmentInterface HandlerError

/-- A repository call whose error becomes the given response; a panic answers nothing. -/
def orFail (error : ApiError) (call : Call) : Handler call.Res :=
  Proc.perform (I := attachmentInterface) call fun
    | .database => .api error
    | .panic message => .panicked message

def askStorage (call : Call) : Handler call.Res :=
  Proc.perform (I := attachmentInterface) call fun _ =>
    .panicked "system clock is after the Unix epoch"

def refuse {α : Type} (error : ApiError) : Handler α := .fail (.api error)

def incident {α : Type} (handler : Incidents.Handler α) : Handler α :=
  handler.embed Call.incident fun _ answer => answer

end SafeCameroon.Attachments
