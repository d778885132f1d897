import Bookkeeping.Posting
import Bookkeeping.Request.Problem

set_option autoImplicit false

/-! # Answers

The status of an answer and what it carries. Broken rules of the ledger are answered by their family:
400 for what was asked for, 404 for what does not exist, 409 for what is in the way, 503 for
contention. Values outside their domain are answered with 400 as well; whatever else goes wrong with
500. -/

namespace Bookkeeping.Web

/-- What an answer carries. -/
inductive Content where
  | empty
  | document (j : Json)
  | plain (text : String)
  /-- The problems of a request. -/
  | problems (problems : List Request.Problem)
  deriving Repr

/-- An answer. -/
structure Answer where
  status : Nat
  content : Content
  deriving Repr

namespace Answer

/-- An answer with a sentence about what is wrong. -/
def detail (status : Nat) (text : String) : Answer :=
  ⟨status, .document (.object [("detail", .text text)])⟩

/-- No resource has the path. -/
def notFound : Answer := detail 404 "Not Found"

/-- The resource does not take the method. -/
def methodNotAllowed : Answer := detail 405 "Method Not Allowed"

/-- The body of the request cannot be read at all. -/
def unreadable : Answer := detail 400 "There was an error parsing the body"

/-- The request has problems. What was given is shown with each of them, and numbers that are not finite
    cannot be shown. -/
def refused (problems : List Request.Problem) : Answer :=
  if problems.all fun p => p.given.allFinite then ⟨422, .problems problems⟩
  else detail 400 "Out of range float values are not JSON compliant"

/-- The answer to a call that succeeds. -/
def success (status : Nat) : Option Json → Answer
  | some j => ⟨status, .document j⟩
  | none => ⟨status, .empty⟩

/-! ## Failures -/

/-- The status for a family of errors of the ledger. -/
def statusOf (k : ErrorKind) : Nat :=
  if k.isValidation then 400
  else if k.isNotFound then 404
  else if k.isConflict then 409
  else if k = .concurrency then 503
  else 500

/-- The answer to a call that fails. -/
def ofFailure : Failure → Answer
  | .ledger e =>
      ⟨statusOf e.kind,
        .document (.object [("detail", .text e.message), ("code", .text e.kind.code)])⟩
  | .value f => detail 400 f.message
  | _ => ⟨500, .plain "Internal Server Error"⟩

/-- What is noted in the log about a call that fails, if anything: `what` is its method and path. -/
def failureNote (what : String) : Failure → Option LogRecord
  | .ledger e =>
      let record (level : LogLevel) (start : String) : LogRecord :=
        ⟨level, .requests, start ++ what ++ ": " ++ e.message⟩
      if e.kind.isValidation then some (record .warning "Rejected ")
      else if e.kind.isConflict then some (record .warning "Conflict on ")
      else if e.kind = .concurrency then some (record .error "Concurrency failure on ")
      else none
  | _ => none

end Answer

end Bookkeeping.Web
