import TableApi.Proofs.Effect.Action
import TableApi.Request.ApiError

/-!
# Errors that are shown

An error of the database, of a schema, of a settings document or of a hook is shown to the client as
one of a few kinds.  Whichever it is, showing it writes to the log at most: no state changes, and
nothing is asked.
-/

namespace TableApi

open TableApi.Action

variable {σ α : Type}

theorem DatabaseError.raise_declines (error : DatabaseError) :
    Declines (error.raise : Action σ ApiError α) :=
  declines_log_fail _ _

theorem SchemaError.raise_declines (error : SchemaError) :
    Declines (error.raise : Action σ ApiError α) := by
  cases error with
  | database cause => exact cause.raise_declines
  | _ => exact declines_fail _

theorem DocumentError.raise_declines (error : DocumentError) :
    Declines (error.raise : Action σ ApiError α) := by
  cases error with
  | notFound what => exact declines_fail _
  | _ => exact declines_log_fail _ _

theorem HookError.raise_declines (error : HookError) :
    Declines (error.raise : Action σ ApiError α) := by
  cases error with
  | rejected reason => exact declines_fail _
  | _ => exact declines_log_fail _ _

end TableApi
