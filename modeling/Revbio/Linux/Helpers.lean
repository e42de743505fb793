/-
Revbio.Linux.Helpers — `retry`, `translate_error` and `last_error`
(`linux/helpers.rs`).

`retry` has no bound on the number of attempts, so it is a marker on the
call (`Call.retry`). `RetryExec` is its loop, over any meaning of a single
attempt: attempts that end in `-1` with `errno = EINTR` are thrown away,
and the first other one is the answer.
-/
import Revbio.Events
import Revbio.Linux.Syscalls

namespace Revbio

open CallTree Prog

/-- `helpers::retry(|| c)`. -/
def retry (c : Syscall) : Io c.Ret := .call (.retry c) .ret

@[simp] theorem retry_eq (c : Syscall) : retry c = .call (.retry c) .ret := rfl

/-- What `retry` amounts to when `attempt` says what one attempt does and
`interrupted` that it answered `-1` and left `EINTR` in `errno`. -/
inductive RetryExec {κ ρ : Type} (attempt : κ → ρ → κ → Prop)
    (interrupted : ρ → κ → Prop) : κ → ρ → κ → Prop where
  | done {s s' : κ} {r : ρ} :
      attempt s r s' → ¬ interrupted r s' → RetryExec attempt interrupted s r s'
  | again {s s₁ s' : κ} {r r' : ρ} :
      attempt s r s₁ → interrupted r s₁ → RetryExec attempt interrupted s₁ r' s' →
      RetryExec attempt interrupted s r' s'

/-- `translate_error::get_err`. The last branch also writes a line to
standard output, and one to the log, before the error is built. -/
def getErr (errno : Int) : Io (IoErrorKind × String) :=
  if errno = EOF then return (.endOfFile, "end of file")
  else if errno = ECONNREFUSED then return (.connectionRefused, "connection refused")
  else if errno = ECONNRESET then return (.connectionReset, "connection reset")
  else if errno = EPERM ∨ errno = EACCES then
    return (.permissionDenied, "permission denied")
  else if errno = EPIPE then return (.brokenPipe, "broken pipe")
  else if errno = ENOTCONN then return (.notConnected, "not connected")
  else if errno = ECONNABORTED then return (.connectionAborted, "connection aborted")
  else if errno = EADDRNOTAVAIL then return (.connectionRefused, "address not available")
  else if errno = EADDRINUSE then return (.connectionRefused, "address in use")
  else if errno = EAGAIN ∨ errno = EWOULDBLOCK then
    return (.resourceUnavailable, "resource temporarily unavailable")
  else do
    let _ ← sys (.println ("errno = " ++ toString errno))
    let text ← sys .lastOsError
    let _ ← sys (.debug ("ignoring " ++ toString errno ++ ": " ++ text))
    return (.otherIoError, "unknown error")

def translateError (errno : Int) (detail : Bool) : Io IoError := do
  let (kind, desc) ← getErr errno
  if detail then
    let text ← sys .lastOsError
    return { kind, desc, detail := some text }
  else
    return { kind, desc, detail := none }

def lastError : Io IoError := do
  let errno : Int ← sys .errno
  translateError errno true

/-! ## What an error costs -/

/-- The calls that only look at `errno`, or print or log a line. -/
def Reports : Call → Prop
  | .once .errno => True
  | .once .lastOsError => True
  | .once (.println _) => True
  | .once (.debug _) => True
  | _ => False

theorem Reports.each {P : Call → Prop} {c : Call} (h : Reports c) (errno : P (.once .errno))
    (lastOsError : P (.once .lastOsError)) (println : ∀ line, P (.once (.println line)))
    (debug : ∀ line, P (.once (.debug line))) : P c := by
  unfold Reports at h
  split at h
  · exact errno
  · exact lastOsError
  · exact println _
  · exact debug _
  · exact h.elim

theorem getErr_reports (errno : Int) : (getErr errno).Within Reports fun _ => True := by
  unfold getErr
  repeat refine within_ite (within_ret trivial) ?_
  exact within_call trivial fun _ => within_call trivial fun _ =>
    within_call trivial fun _ => trivial

theorem translateError_reports (errno : Int) (detail : Bool) :
    (translateError errno detail).Within Reports fun _ => True := by
  refine within_bind (getErr_reports errno) ?_
  intro ⟨kind, desc⟩ _
  cases detail with
  | false => trivial
  | true => exact within_call trivial fun _ => trivial

theorem lastError_reports : lastError.Within Reports fun _ => True :=
  within_call trivial fun _ => translateError_reports _ _

end Revbio
