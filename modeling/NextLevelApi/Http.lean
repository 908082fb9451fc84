import Mathlib.Data.Nat.Notation

/-!
# Exceptions and their answers

What a handler or a guard may throw, and the answer that `AllExceptionsFilter` gives for
it: an `HttpException` keeps its own status, everything else becomes a 500. The limit on the
requests of a client is kept by a guard of its own, which runs on every route.
-/

namespace NextLevelApi

/-- A Nest `HttpException`, or any other `Error`. -/
inductive Exception
  | http (status : ℕ) (message : String)
  | error (name message : String)
  deriving DecidableEq

abbrev BadRequestException (message : String) : Exception := .http 400 message
abbrev UnauthorizedException (message : String) : Exception := .http 401 message
abbrev ForbiddenException (message : String) : Exception := .http 403 message
abbrev NotFoundException (message : String) : Exception := .http 404 message
abbrev InternalServerErrorException (message : String) : Exception := .http 500 message

def Exception.isHttp : Exception → Bool
  | .http _ _ => true
  | .error _ _ => false

/-- What a handler throws: an exception with its `code`, or the messages of a pipe. -/
inductive Thrown
  | exception (e : Exception) (code : Option String)
  | invalid (messages : List String)

structure ErrorResponse where
  statusCode : ℕ
  message : String
  deriving DecidableEq

def AllExceptionsFilter.catch : Exception → ErrorResponse
  | .http status message => ⟨status, message⟩
  | .error _ _ => ⟨500, "Internal server error"⟩

/-- The global `ThrottlerGuard`, on a request that goes over the limit of its route or not. -/
def ThrottlerGuard (overLimit : Bool) : Except Exception Unit :=
  if overLimit then .error (.http 429 "ThrottlerException: Too Many Requests") else .ok ()

end NextLevelApi
