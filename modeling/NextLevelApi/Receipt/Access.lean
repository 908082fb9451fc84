import Mathlib.Logic.Relation
import NextLevelApi.Auth.Service
import NextLevelApi.Core.AwsS3
import NextLevelApi.Library.JsNumber

/-!
# Who may view an image

The keys that `upload` and `presignUpload` issue, and the way a view URL is asked for: the
routes of `ReceiptController` in their order of declaration, and `presignView` behind the
last of them. `presignView` signs any key, and its route is never reached.
-/

namespace NextLevelApi
open Fallible JsNumber Relation

/-- What `presignView` is built from. `getSignedUrl` is given no key when there was none. -/
structure ViewEnv where
  s3ViewUrlExpiresSeconds : Option ℕ
  getSignedUrl : (key : Option String) → (expiresIn : ℕ) → Except Exception String

def AwsS3Service.presignView.expiresIn (env : ViewEnv) : ℕ := env.s3ViewUrlExpiresSeconds.getD 300

def AwsS3Service.presignView (env : ViewEnv) (key : Option String) : Except Exception String := do
  let expiresIn := presignView.expiresIn env
  let viewUrl ← env.getSignedUrl key expiresIn
  return viewUrl

/-- With the lifetime that is configured, the client signs every key, be there an object under it or
not. -/
def ViewEnv.Signs (env : ViewEnv) : Prop :=
  ∀ key, ∃ url, env.getSignedUrl (some key) (AwsS3Service.presignView.expiresIn env) = .ok url

/-! ### Keys that are issued -/

/-- The UUIDs drawn so far, and the keys with the users they were issued to. -/
structure KeyState where
  uuids : List Uuid
  issued : List (ℕ × String)

/-- A call of `upload` or `presignUpload`; one that fails issues nothing. -/
inductive IssueStep (s3 : S3Env) : KeyState → KeyState → Prop
  | upload {s : KeyState} (now : ℕ) {id : Uuid} {userId : ℕ} {file : Option File} {key : String}
      {object : S3Object} (hfresh : id ∉ s.uuids)
      (h : AwsS3Service.upload.command now id userId file = .ok (key, object)) :
      IssueStep s3 s ⟨id :: s.uuids, (userId, key) :: s.issued⟩
  | presignUpload {s : KeyState} (now : ℕ) {id : Uuid} {userId : ℕ} {mimeType ext key : String}
      {answer : PresignedUpload} (hfresh : id ∉ s.uuids)
      (hkey : AwsS3Service.presignUpload.key now id userId mimeType ext = .ok key)
      (h : AwsS3Service.presignUpload.sign s3 mimeType key = .ok answer) :
      IssueStep s3 s ⟨id :: s.uuids, (userId, answer.key) :: s.issued⟩
  | fails {s : KeyState} {id : Uuid} (hfresh : id ∉ s.uuids) : IssueStep s3 s ⟨id :: s.uuids, s.issued⟩

abbrev IssueRun (s3 : S3Env) (s : KeyState) : Prop := ReflTransGen (IssueStep s3) ⟨[], []⟩ s

def KeyState.Issued (s : KeyState) (userId : ℕ) (key : String) : Prop := (userId, key) ∈ s.issued

/-! ### ReceiptController -/

/-- `ParseIntPipe` on a path segment, of which the global `ValidationPipe` has made a number. It
takes the integers that are written without an exponent. -/
def ParseIntPipe.transform (A : Arithmetic) (segment : String) : Except Exception ℤ :=
  match ofText A segment with
  | .finite x =>
    if x.den = 1 ∧ |x| < 1000000000000000000000 then .ok x.num
    else .error (BadRequestException "Validation failed (numeric string is expected)")
  | _ => .error (BadRequestException "Validation failed (numeric string is expected)")

inductive Method
  | get
  | post
  deriving DecidableEq

/-- A request with the segments of its path behind `/receipts`. -/
structure ReceiptRequest where
  method : Method
  path : List String
  query : String → Option String

/-- What the other handlers of the controller answer. -/
structure ReceiptHandlers (Answer : Type) where
  scanReceipt : (user : Claims) → Except Exception Answer
  getReceipts : (user : Claims) → Except Exception Answer
  getReceiptItems : (user : Claims) → (id : ℤ) → Except Exception Answer
  getReceipt : (user : Claims) → (id : ℤ) → Except Exception Answer
  presignUpload : (user : Claims) → Except Exception Answer

inductive ControllerAnswer (Answer : Type)
  | viewUrl (url : String)
  | other (answer : Answer)

/-- A segment of a route: itself, or a parameter. -/
inductive Segment
  | literal (text : String)
  | param (name : String)

def Segment.matches : Segment → String → Bool
  | .literal text, segment => text = segment
  | .param _, segment => segment ≠ ""

structure ReceiptRoute (Answer : Type) where
  method : Method
  pattern : List Segment
  handler : Claims → ReceiptRequest → Except Exception (ControllerAnswer Answer)

def ReceiptRoute.matches {Answer : Type} (route : ReceiptRoute Answer) (request : ReceiptRequest) : Bool :=
  route.method = request.method ∧ route.pattern.length = request.path.length ∧
    (route.pattern.zip request.path).all fun (pattern, segment) => pattern.matches segment

namespace ReceiptController

variable {Answer : Type} (A : Arithmetic) (handlers : ReceiptHandlers Answer) (env : ViewEnv)

def presignView (key : Option String) : Except Exception String := AwsS3Service.presignView env key

/-- The routes in the order of their declaration. -/
def routes : List (ReceiptRoute Answer) :=
  [{ method := .post, pattern := [.literal "scan"]
     handler := fun user _ => ControllerAnswer.other <$> handlers.scanReceipt user },
   { method := .get, pattern := []
     handler := fun user _ => ControllerAnswer.other <$> handlers.getReceipts user },
   { method := .get, pattern := [.param "id", .literal "items"]
     handler := fun user request => do
       let id ← ParseIntPipe.transform A (request.path.getD 0 "")
       ControllerAnswer.other <$> handlers.getReceiptItems user id },
   { method := .get, pattern := [.param "id"]
     handler := fun user request => do
       let id ← ParseIntPipe.transform A (request.path.getD 0 "")
       ControllerAnswer.other <$> handlers.getReceipt user id },
   { method := .post, pattern := [.literal "presign-upload"]
     handler := fun user _ => ControllerAnswer.other <$> handlers.presignUpload user },
   { method := .get, pattern := [.literal "presign-view"]
     handler := fun _ request => .viewUrl <$> presignView env (request.query "key") }]

/-- The first route that matches handles the request, `guard` being what the guards made of it:
they are the same for every route, and run before the pipes. -/
def dispatch (guard : Except Exception Claims) (request : ReceiptRequest) :
    Option (Except Exception (ControllerAnswer Answer)) :=
  ((routes A handlers env).find? (·.matches request)).map fun route => do
    let user ← guard
    route.handler user request

end ReceiptController

/-- `GET /receipts/presign-view?key=k` -/
def viewRequest (key : String) : ReceiptRequest where
  method := .get
  path := ["presign-view"]
  query name := if name = "key" then some key else none

/-- The user can view the image if and only if its key was issued to him. -/
structure OwnershipDecides {Answer : Type} (A : Arithmetic) (handlers : ReceiptHandlers Answer)
    (env : ViewEnv) (s : KeyState) (userId : ℕ) (key : String) : Prop where
  only_owner : ∀ url, ReceiptController.presignView env (some key) = .ok url → s.Issued userId key
  owner_served : s.Issued userId key → ∀ user : Claims, user.id = userId → ∃ url,
    ReceiptController.dispatch A handlers env (.ok user) (viewRequest key) = some (.ok (.viewUrl url))

section Ownership

variable {Answer : Type} {A : Arithmetic} {handlers : ReceiptHandlers Answer} {env : ViewEnv} {s3 : S3Env}
  {s s' : KeyState} {userId userId' : ℕ} {key : String}

lemma transform_presignView : ParseIntPipe.transform A "presign-view" =
    .error (BadRequestException "Validation failed (numeric string is expected)") := by
  have hnan : ofText A "presign-view" = .nan :=
    ofText_cons (c := 'p') rfl rfl (by decide) A "resign-view".toList
  rw [ParseIntPipe.transform, hnan]

/-- The route of `getReceipt` takes the request, and its pipe refuses it. -/
lemma dispatch_viewRequest (user : Claims) (key : String) :
    ReceiptController.dispatch A handlers env (.ok user) (viewRequest key) =
      some (.error (BadRequestException "Validation failed (numeric string is expected)")) := by
  have hroute : (ReceiptController.routes A handlers env).find? (·.matches (viewRequest key)) =
      (ReceiptController.routes A handlers env)[3]? := rfl
  rw [ReceiptController.dispatch, hroute]
  simp only [ReceiptController.routes, List.getElem?_cons_succ, List.getElem?_cons_zero, Option.map_some,
    viewRequest, List.getD_cons_zero, transform_presignView]
  rfl

/-- An issued key was made for its user, with a UUID that was drawn. -/
def KeyState.Sound (s : KeyState) : Prop :=
  ∀ userId key, s.Issued userId key →
    ∃ now id ext, id ∈ s.uuids ∧ key = AwsS3Service.makeKey now id userId ext

theorem issued_sound (h : IssueRun s3 s) : s.Sound := by
  induction h with
  | refl => exact fun _ _ h => absurd h (by simp [KeyState.Issued])
  | @tail s s' _ hstep ih =>
    -- a step draws one UUID, and issues nothing or one key made with it
    have hkept : ∀ {id}, s'.uuids = id :: s.uuids → ∀ userId key, s.Issued userId key →
        ∃ now id ext, id ∈ s'.uuids ∧ key = AwsS3Service.makeKey now id userId ext := by
      intro _ huuids userId key hissued
      obtain ⟨now, id, ext, hid, hkey⟩ := ih userId key hissued
      exact ⟨now, id, ext, huuids ▸ List.mem_cons_of_mem _ hid, hkey⟩
    intro userId key hissued
    cases hstep with
    | upload now hfresh h =>
      obtain ⟨f, -, -, hkey, -⟩ := AwsS3Service.upload.command_ok.mp h
      obtain heq | hissued := List.mem_cons.mp hissued
      · obtain ⟨rfl, rfl⟩ := Prod.mk.inj heq
        exact ⟨now, _, _, List.mem_cons_self, hkey⟩
      · exact hkept rfl userId key hissued
    | presignUpload now hfresh hkey h =>
      obtain ⟨_, -, hkey⟩ := bind_eq_ok.mp hkey
      obtain ⟨_, -, h⟩ := bind_eq_ok.mp h
      obtain rfl := Except.ok.inj h
      obtain heq | hissued := List.mem_cons.mp hissued
      · obtain ⟨rfl, rfl⟩ := Prod.mk.inj heq
        exact ⟨now, _, _, List.mem_cons_self, (Except.ok.inj hkey).symm⟩
      · exact hkept rfl userId key hissued
    | fails hfresh => exact hkept rfl userId key hissued

/-- No key is issued to two users. -/
theorem issued_once (h : IssueRun s3 s) (hu : s.Issued userId key) (hu' : s.Issued userId' key) :
    userId = userId' := by
  obtain ⟨now, id, ext, -, hkey⟩ := issued_sound h userId key hu
  obtain ⟨now', id', ext', -, hkey'⟩ := issued_sound h userId' key hu'
  exact (AwsS3Service.makeKey_inj (hkey.symm.trans hkey')).1

end Ownership

/-- The client signs whatever key it is given, and the route for it is never reached: ownership
decides for no user and no key, in whatever state. -/
theorem not_ownershipDecides {Answer : Type} {env : ViewEnv} (hsigns : env.Signs) (A : Arithmetic)
    (handlers : ReceiptHandlers Answer) (s : KeyState) (userId : ℕ) (key : String) :
    ¬OwnershipDecides A handlers env s userId key := by
  rintro ⟨honly, hserved⟩
  obtain ⟨url, hurl⟩ := hsigns key
  have hview : ReceiptController.presignView env (some key) = .ok url := by
    unfold ReceiptController.presignView AwsS3Service.presignView
    rw [hurl]
  have hissued : s.Issued userId key := honly url hview
  obtain ⟨url', hurl'⟩ := hserved hissued ⟨userId, "", 0, "", 0, 0⟩ rfl
  rw [dispatch_viewRequest] at hurl'
  exact absurd hurl' (by simp)

namespace Sample

def noHandlers : ReceiptHandlers Unit where
  scanReceipt _ := .ok ()
  getReceipts _ := .ok ()
  getReceiptItems _ _ := .ok ()
  getReceipt _ _ := .ok ()
  presignUpload _ := .ok ()

/-- The signer, which needs a key. -/
def views : ViewEnv where
  s3ViewUrlExpiresSeconds := none
  getSignedUrl key _ :=
    match key with
    | none => .error (.error "Error" "No value provided for input HTTP label: Key.")
    | some key => .ok ("https://s3.amazonaws.com/" ++ key)

lemma views_signs : views.Signs := fun _ => ⟨_, rfl⟩

def doubles : Arithmetic := binary64 fun _ => ""

def uploads : S3Env := ⟨none, fun key _ _ => .ok ("https://s3.amazonaws.com/" ++ key)⟩

lemma drawn_wellFormed :
    ∀ c ∈ "0f8fad5b-d9cb-469f-a165-70867728950e".toList, c ∈ "0123456789abcdef-".toList := by simp

def drawn : Uuid where
  text := "0f8fad5b-d9cb-469f-a165-70867728950e".toList
  wellFormed := drawn_wellFormed

def issuedKey : String := "uploads/user-1/2025-12-09/0f8fad5b-d9cb-469f-a165-70867728950e.jpg"

/-- User 1 was issued a key. -/
def oneKey : KeyState := ⟨[drawn], [(1, issuedKey)]⟩

lemma issueRun_oneKey : IssueRun uploads oneKey := by
  apply ReflTransGen.single
  have hfresh : drawn ∉ ([] : List Uuid) := List.not_mem_nil
  have hkey : AwsS3Service.presignUpload.key 1765238400000 drawn 1 "image/jpeg" "jpg" = .ok issuedKey := by
    decide +kernel
  have hsign : AwsS3Service.presignUpload.sign uploads "image/jpeg" issuedKey =
      .ok ⟨"https://s3.amazonaws.com/" ++ issuedKey, issuedKey⟩ := rfl
  exact .presignUpload 1765238400000 hfresh hkey hsign

end Sample

open Sample in
/-- User 2 is given a view URL for the image of user 1, who does not get one. -/
theorem image_of_another_user : ∃ s, IssueRun uploads s ∧
    ReceiptController.presignView views (some issuedKey) = .ok ("https://s3.amazonaws.com/" ++ issuedKey) ∧
    ¬OwnershipDecides doubles noHandlers views s 2 issuedKey ∧
    ¬OwnershipDecides doubles noHandlers views s 1 issuedKey := by
  have hview : ReceiptController.presignView views (some issuedKey) =
      .ok ("https://s3.amazonaws.com/" ++ issuedKey) := rfl
  have hissued : oneKey.Issued 1 issuedKey := List.mem_cons_self
  refine ⟨oneKey, issueRun_oneKey, hview, ?_, ?_⟩
  · intro howner
    have hother : oneKey.Issued 2 issuedKey := howner.only_owner _ hview
    exact absurd (issued_once issueRun_oneKey hissued hother) (by decide)
  · intro howner
    obtain ⟨url, hurl⟩ := howner.owner_served hissued ⟨1, "", 0, "", 0, 0⟩ rfl
    rw [dispatch_viewRequest] at hurl
    exact absurd hurl (by simp)

open Sample in
theorem not_ownershipDecides_owner : IssueRun uploads oneKey ∧ oneKey.Issued 1 issuedKey ∧
    ¬OwnershipDecides doubles noHandlers views oneKey 1 issuedKey :=
  ⟨issueRun_oneKey, List.mem_cons_self,
    not_ownershipDecides views_signs doubles noHandlers oneKey 1 issuedKey⟩

end NextLevelApi
