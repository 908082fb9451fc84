import NextLevelApi.Auth.Service

/-!
# Role-based access

`RolesGuard` and the order in which Nest runs the guards of a request. The guard is
registered as an `APP_GUARD` and so runs before `JwtGuard` has set `request.user`: on any
route with roles it dereferences an undefined user.
-/

namespace NextLevelApi

/-- What the guards see of a request; only the passport guards set `user`. -/
structure HttpRequest where
  accessToken : String
  now : ℕ
  user : Option Claims := none

structure Route where
  handlerRoles : Option (List Role)
  classRoles : Option (List Role)

/-- `reflector.getAllAndOverride(ROLES_KEY, [handler, class])`: a list on the handler, be it
empty, hides the list of the class. -/
def Route.requiredRoles (route : Route) : Option (List Role) := route.handlerRoles.or route.classRoles

abbrev Guard := HttpRequest → Except Exception (Bool × HttpRequest)

def RolesGuard.canActivate (route : Route) (request : HttpRequest) : Except Exception Bool :=
  match route.requiredRoles with
  | none => .ok true
  | some requiredRoles =>
    match request.user with
    | none => .error (.error "TypeError" "Cannot read properties of undefined (reading 'role')")
    | some user =>
      let userRoleRank := RoleHierarchy.lookup user.role
      -- a comparison with an undefined rank is false
      .ok (requiredRoles.any fun role => userRoleRank.any fun rank => RoleHierarchy role ≤ rank)

def Guard.roles (route : Route) : Guard := fun request => do
  return (← RolesGuard.canActivate route request, request)

def Guard.throttler (overLimit : HttpRequest → Bool) : Guard := fun request => do
  ThrottlerGuard (overLimit request)
  return (true, request)

def Guard.jwt (env : AuthEnv) : Guard := fun request => do
  let user ← JwtGuard env request.now request.accessToken
  return (true, { request with user := some user })

/-- Nest runs the guards in order; a guard that answers `false` means an HTTP 403. -/
def runGuards : List Guard → HttpRequest → Except Exception HttpRequest
  | [], request => .ok request
  | guard :: guards, request => do
    let (allowed, request) ← guard request
    if allowed then runGuards guards request
    else .error (ForbiddenException "Forbidden resource")

/-- The guards of a route with `@UseGuards(JwtGuard)`, those of app.module.ts first. -/
def routeGuards (env : AuthEnv) (overLimit : HttpRequest → Bool) (route : Route) : List Guard :=
  [.roles route, .throttler overLimit, .jwt env]

/-- Role-based access for one request: with a valid token the handler runs exactly when some
required role has at most the rank of the token's role, without one the request is refused
with a 401 or 403, and `RolesGuard` throws nothing but HTTP errors. -/
structure RoleBasedAccess (env : AuthEnv) (overLimit : HttpRequest → Bool) (route : Route)
    (requiredRoles : List Role) (request : HttpRequest) : Prop where
  ranked : ∀ c, JwtGuard env request.now request.accessToken = .ok c →
    ((∃ passed, runGuards (routeGuards env overLimit route) request = .ok passed) ↔
      ∃ role ∈ requiredRoles, ∃ rank, RoleHierarchy.lookup c.role = some rank ∧ RoleHierarchy role ≤ rank)
  refused : ∀ e, JwtGuard env request.now request.accessToken = .error e →
    ∃ e', runGuards (routeGuards env overLimit route) request = .error e' ∧
      ((AllExceptionsFilter.catch e').statusCode = 401 ∨ (AllExceptionsFilter.catch e').statusCode = 403)
  httpErrors : ∀ e, RolesGuard.canActivate route request = .error e → e.isHttp = true

section Guards

variable {env : AuthEnv} {overLimit : HttpRequest → Bool} {route : Route} {requiredRoles : List Role}
  {request : HttpRequest}

lemma runGuards_cons_ok {guard : Guard} {guards : List Guard} {passed : HttpRequest}
    (h : guard request = .ok (true, passed)) :
    runGuards (guard :: guards) request = runGuards guards passed := by
  rw [runGuards, h]
  rfl

lemma runGuards_cons_error {guard : Guard} {guards : List Guard} {e : Exception}
    (h : guard request = .error e) : runGuards (guard :: guards) request = .error e := by
  rw [runGuards, h]
  rfl

lemma canActivate_of_no_user (hroles : route.requiredRoles = some requiredRoles)
    (huser : request.user = none) : RolesGuard.canActivate route request =
      .error (.error "TypeError" "Cannot read properties of undefined (reading 'role')") := by
  simp only [RolesGuard.canActivate, hroles, huser]

/-- An arriving request ends in a 500 on every route with roles, whatever its token. -/
lemma runGuards_of_requiredRoles (hroles : route.requiredRoles = some requiredRoles)
    (huser : request.user = none) : runGuards (routeGuards env overLimit route) request =
      .error (.error "TypeError" "Cannot read properties of undefined (reading 'role')") := by
  apply runGuards_cons_error
  rw [Guard.roles, canActivate_of_no_user hroles huser]
  rfl

/-- On no route with roles and for no request does role-based access work. -/
theorem not_roleBasedAccess (hroles : route.requiredRoles = some requiredRoles)
    (huser : request.user = none) : ¬RoleBasedAccess env overLimit route requiredRoles request := by
  intro h
  have hhttp := h.httpErrors _ (canActivate_of_no_user hroles huser)
  exact absurd hhttp (by simp [Exception.isHttp])

/-- A route without roles is open to exactly those whom `requestUser` lets through. -/
theorem runGuards_of_no_roles (hroles : route.requiredRoles = none) {passed : HttpRequest} :
    runGuards (routeGuards env overLimit route) request = .ok passed ↔
      ∃ c, requestUser env (overLimit request) request.now request.accessToken = .ok c ∧
        passed = { request with user := some c } := by
  have hopen : Guard.roles route request = .ok (true, request) := by
    simp only [Guard.roles, RolesGuard.canActivate, hroles]
    rfl
  rw [routeGuards, runGuards_cons_ok hopen]
  cases hlimit : overLimit request with
  | true =>
    have hthrottled : Guard.throttler overLimit request =
        .error (.http 429 "ThrottlerException: Too Many Requests") := by
      rw [Guard.throttler, hlimit]
      rfl
    rw [runGuards_cons_error hthrottled, requestUser_over]
    simp
  | false =>
    have hwithin : Guard.throttler overLimit request = .ok (true, request) := by
      rw [Guard.throttler, hlimit]
      rfl
    rw [runGuards_cons_ok hwithin, requestUser_within]
    cases hguard : JwtGuard env request.now request.accessToken with
    | error e =>
      have herror : Guard.jwt env request = .error e := by rw [Guard.jwt, hguard]; rfl
      rw [runGuards_cons_error herror]
      simp
    | ok c =>
      have hok : Guard.jwt env request = .ok (true, { request with user := some c }) := by
        rw [Guard.jwt, hguard]
        rfl
      rw [runGuards_cons_ok hok, runGuards]
      simp [eq_comm]

end Guards

namespace Sample

def adminRoute : Route := ⟨some [.ADMIN], none⟩

noncomputable def adminRequest : HttpRequest where
  accessToken := (env id).jwt.sign "access" { user.claims 0 900 with role := "admin" }
  now := 1000

end Sample

open Sample in
theorem not_roleBasedAccess_anonymous :
    ¬RoleBasedAccess (env id) (fun _ => false) adminRoute [.ADMIN] { accessToken := "", now := 1000 } :=
  not_roleBasedAccess rfl rfl

open Sample in
/-- An administrator is refused with a 500 on a route for administrators. -/
theorem admin_refused :
    ¬RoleBasedAccess (env id) (fun _ => false) adminRoute [.ADMIN] adminRequest := by
  intro h
  have hguard : JwtGuard (env id) adminRequest.now adminRequest.accessToken =
      .ok { user.claims 0 900 with role := "admin" } :=
    (jwtGuard_sign (Jsonwebtoken.reference_documented _) _).trans (if_pos (by decide))
  have hroles : adminRoute.requiredRoles = some [.ADMIN] := rfl
  obtain ⟨passed, hpassed⟩ := (h.ranked _ hguard).mpr ⟨.ADMIN, by simp, 3, by decide, by decide⟩
  rw [runGuards_of_requiredRoles hroles rfl] at hpassed
  exact absurd hpassed (by simp)

end NextLevelApi
