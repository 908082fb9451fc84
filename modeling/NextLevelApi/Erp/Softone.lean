import NextLevelApi.Http
import NextLevelApi.Library.ThreadPool

/-!
# The SoftOne login

`SoftoneAdapter.getToken` with its three fields, the flows that it starts and the callbacks
of their promises. In every reachable state the fields are those that the latest flow
leaves them at; all earlier flows have failed and been cleaned up.
-/

namespace NextLevelApi
open ThreadPool

structure SoftoneConfig where
  softone_base_url : String
  softone_username : String
  softone_password : String
  softone_app_id : String

structure LoginBody where
  service : String
  username : String
  password : String
  appid : String

structure AuthenticateBody where
  service : String
  clientID : String
  company : String
  branch : String
  module : String
  refid : String

/-- The company, branch and module that SoftOne lets the user work with. -/
structure LoginObj where
  COMPANY : String
  BRANCH : String
  MODULE : String
  REFID : String

/-- A reply of SoftOne, an error or what a success carries. -/
inductive SoftoneResponseDto (α : Type)
  | success (data : α)
  | error (errorcode : ℕ) (error : String)

structure LoginSuccess where
  clientID : String
  objs : List LoginObj

abbrev Outcome := Except Exception String

/-- How far a flow has come. It waits for the reply to a post, its promise has settled, or the
callbacks of `.then` and `.finally` have run; at last `authPromise` itself settles. -/
inductive Flow
  | login (post : LoginBody)
  | authenticate (post : AuthenticateBody)
  | settled (outcome : Outcome)
  | thenRan (outcome : Outcome)
  | finallyRan (outcome : Outcome)
  | resolved (outcome : Outcome)

/-- The fields of an adapter and the flows it has started; `authPromise` names one of these. -/
structure SoftoneAdapter where
  config : SoftoneConfig
  clientId : Option String
  isAuthenticating : Bool
  authPromise : Option ℕ
  flows : List Flow

/-- What `getToken` returns: the cached token, or the promise of a flow. -/
inductive Returned
  | token (clientId : String)
  | promise (flow : ℕ)

namespace SoftoneAdapter

def create (config : SoftoneConfig) : SoftoneAdapter := ⟨config, none, false, none, []⟩

def login (config : SoftoneConfig) : LoginBody where
  service := "login"
  username := config.softone_username
  password := config.softone_password
  appid := config.softone_app_id

def authenticate (clientId : String) (obj : LoginObj) : AuthenticateBody where
  service := "authenticate"
  clientID := clientId
  company := obj.COMPANY
  branch := obj.BRANCH
  module := obj.MODULE
  refid := obj.REFID

def startFlow (this : SoftoneAdapter) : SoftoneAdapter × Returned :=
  ({ this with
      isAuthenticating := true
      authPromise := some this.flows.length
      flows := this.flows ++ [.login (login this.config)] }, .promise this.flows.length)

def getToken (this : SoftoneAdapter) : SoftoneAdapter × Returned :=
  -- an empty string is falsy
  match this.clientId.filter (· ≠ "") with
  | some clientId => (this, .token clientId)
  | none =>
    match this.isAuthenticating, this.authPromise with
    | true, some flow => (this, .promise flow)
    | _, _ => startFlow this

def afterLogin : Except Exception (SoftoneResponseDto LoginSuccess) → Flow
  | .error e => .settled (.error e)
  | .ok (.error _ error) => .settled (.error (.error "Error" ("SoftOne Login failed: " ++ error)))
  | .ok (.success loginResult) =>
    match loginResult.objs.head? with
    | none => .settled
      (.error (.error "TypeError" "Cannot read properties of undefined (reading 'COMPANY')"))
    | some obj => .authenticate (authenticate loginResult.clientID obj)

/-- `authenticateFlow` from the reply to its authenticate on; a success carries the token. -/
def afterAuthenticate : Except Exception (SoftoneResponseDto String) → Flow
  | .error e => .settled (.error e)
  | .ok (.error _ error) => .settled (.error (.error "Error" ("SoftOne Authenticate failed: " ++ error)))
  | .ok (.success clientID) => .settled (.ok clientID)

end SoftoneAdapter

open SoftoneAdapter

/-- The replies and callbacks of flow `f`. A success reply carries a non-empty token. -/
inductive FlowStep (f : ℕ) : SoftoneAdapter → SoftoneAdapter → Prop
  | loginReply {this : SoftoneAdapter} {post : LoginBody} (h : this.flows[f]? = some (.login post))
      (reply : Except Exception (SoftoneResponseDto LoginSuccess)) :
    FlowStep f this { this with flows := this.flows.set f (afterLogin reply) }
  | authenticateReply {this : SoftoneAdapter} {post : AuthenticateBody}
      (h : this.flows[f]? = some (.authenticate post))
      (reply : Except Exception (SoftoneResponseDto String))
      (hreply : reply ≠ .ok (.success "")) :
    FlowStep f this { this with flows := this.flows.set f (afterAuthenticate reply) }
  | fulfilled {this : SoftoneAdapter} {clientId : String}
      (h : this.flows[f]? = some (.settled (.ok clientId))) :
    FlowStep f this
      { this with clientId := some clientId, flows := this.flows.set f (.thenRan (.ok clientId)) }
  | rejected {this : SoftoneAdapter} {e : Exception} (h : this.flows[f]? = some (.settled (.error e))) :
    FlowStep f this { this with flows := this.flows.set f (.thenRan (.error e)) }
  | finally_ {this : SoftoneAdapter} {outcome : Outcome} (h : this.flows[f]? = some (.thenRan outcome)) :
    FlowStep f this
      { this with isAuthenticating := false, flows := this.flows.set f (.finallyRan outcome) }
  | resolve {this : SoftoneAdapter} {outcome : Outcome} (h : this.flows[f]? = some (.finallyRan outcome)) :
    FlowStep f this { this with flows := this.flows.set f (.resolved outcome) }

/-- A call of `getToken`, with the adapter as the call found it. -/
inductive TokenCall
  | called
  | waiting (found : SoftoneAdapter) (flow : ℕ)
  | ended (found : SoftoneAdapter) (returned : Returned) (outcome : Outcome)

inductive CallMove : SoftoneAdapter → TokenCall → SoftoneAdapter → TokenCall → Prop
  | cached {this this' : SoftoneAdapter} {clientId : String} (h : this.getToken = (this', .token clientId)) :
    CallMove this .called this' (.ended this (.token clientId) (.ok clientId))
  | joins {this this' : SoftoneAdapter} {f : ℕ} (h : this.getToken = (this', .promise f)) :
    CallMove this .called this' (.waiting this f)
  | resumes {this found : SoftoneAdapter} {f : ℕ} {outcome : Outcome}
      (h : this.flows[f]? = some (.resolved outcome)) :
    CallMove this (.waiting found f) this (.ended found (.promise f) outcome)

/-- Calls of `getToken` on one adapter, with replies and callbacks in between. -/
def softoneSystem : System SoftoneAdapter TokenCall where
  starts call := call = .called
  ambient this this' := ∃ f, FlowStep f this this'
  move := CallMove

/-! ### The fields and the latest flow -/

namespace Flow

def outcome : Flow → Option Outcome
  | login _ => none
  | authenticate _ => none
  | settled outcome => some outcome
  | thenRan outcome => some outcome
  | finallyRan outcome => some outcome
  | resolved outcome => some outcome

def pending : Flow → Bool
  | finallyRan _ => false
  | resolved _ => false
  | _ => true

/-- The value of `clientId` while this is the latest flow. -/
def clientId : Flow → Option String
  | thenRan (.ok clientId) => some clientId
  | finallyRan (.ok clientId) => some clientId
  | resolved (.ok clientId) => some clientId
  | _ => none

def CleanedUp (flow : Flow) : Prop := flow.pending = false ∧ ∃ e, flow.outcome = some (.error e)

end Flow

/-- The adapter has started no flow, or its fields are those of the latest flow. -/
inductive SoftoneAdapter.Sound : SoftoneAdapter → Prop
  | unused {config : SoftoneConfig} : Sound (create config)
  | used {config : SoftoneConfig} {past : List Flow} {last : Flow} (hpast : ∀ flow ∈ past, flow.CleanedUp)
      (htoken : last.outcome ≠ some (.ok "")) :
    Sound ⟨config, last.clientId, last.pending, some past.length, past ++ [last]⟩

namespace SoftoneAdapter

def outcome (this : SoftoneAdapter) (f : ℕ) : Option Outcome := this.flows[f]?.bind Flow.outcome

def InFlight (this : SoftoneAdapter) (f : ℕ) : Prop :=
  ∃ flow, this.flows[f]? = some flow ∧ flow.outcome = none

def Pending (this : SoftoneAdapter) (f : ℕ) : Prop :=
  ∃ flow, this.flows[f]? = some flow ∧ flow.pending = true

/-- A later state of the same adapter: more flows, and outcomes stay what they are. -/
structure Later (this this' : SoftoneAdapter) : Prop where
  length : this.flows.length ≤ this'.flows.length
  outcome : ∀ {f : ℕ} {o : Outcome}, this.outcome f = some o → this'.outcome f = some o

end SoftoneAdapter

namespace SoftoneAdapter

variable {this this' : SoftoneAdapter} {f : ℕ}

lemma getElem?_last {past : List Flow} {last flow : Flow} {f : ℕ} (h : (past ++ [last])[f]? = some flow) :
    (f < past.length ∧ past[f]? = some flow) ∨ (f = past.length ∧ flow = last) := by
  by_cases hf : f < past.length
  · rw [List.getElem?_append_left hf] at h
    exact .inl ⟨hf, h⟩
  · rw [List.getElem?_append_right (Nat.le_of_not_lt hf), List.getElem?_singleton] at h
    split at h
    · exact .inr ⟨by omega, (Option.some.inj h).symm⟩
    · exact absurd h (by simp)

lemma afterLogin_fields (reply : Except Exception (SoftoneResponseDto LoginSuccess)) :
    (afterLogin reply).clientId = none ∧ (afterLogin reply).pending = true ∧
      (afterLogin reply).outcome ≠ some (.ok "") := by
  rcases reply with e | ⟨loginResult⟩ | ⟨errorcode, error⟩
  · exact ⟨rfl, rfl, by simp [afterLogin, Flow.outcome]⟩
  · cases hobj : loginResult.objs.head? with
    | none => simp [afterLogin, hobj, Flow.clientId, Flow.pending, Flow.outcome]
    | some obj => simp [afterLogin, hobj, Flow.clientId, Flow.pending, Flow.outcome]
  · exact ⟨rfl, rfl, by simp [afterLogin, Flow.outcome]⟩

lemma afterAuthenticate_fields {reply : Except Exception (SoftoneResponseDto String)}
    (hreply : reply ≠ .ok (.success "")) :
    (afterAuthenticate reply).clientId = none ∧ (afterAuthenticate reply).pending = true ∧
      (afterAuthenticate reply).outcome ≠ some (.ok "") := by
  rcases reply with e | ⟨clientID⟩ | ⟨errorcode, error⟩
  · exact ⟨rfl, rfl, by simp [afterAuthenticate, Flow.outcome]⟩
  · refine ⟨rfl, rfl, fun h => hreply ?_⟩
    have htoken : clientID = "" := Except.ok.inj (Option.some.inj h)
    rw [htoken]
  · exact ⟨rfl, rfl, by simp [afterAuthenticate, Flow.outcome]⟩

lemma Sound.last_step {config : SoftoneConfig} {past : List Flow} {last last' : Flow}
    {clientId : Option String} {isAuthenticating : Bool} (hpast : ∀ flow ∈ past, flow.CleanedUp)
    (htoken : last'.outcome ≠ some (.ok "")) (hclient : clientId = last'.clientId)
    (hpending : isAuthenticating = last'.pending) :
    Sound ⟨config, clientId, isAuthenticating, some past.length,
      (past ++ [last]).set past.length last'⟩ := by
  have hset : (past ++ [last]).set past.length last' = past ++ [last'] := by simp
  rw [hset, hclient, hpending]
  exact .used hpast htoken

lemma Sound.past_step {config : SoftoneConfig} {past : List Flow} {last : Flow}
    (hpast : ∀ flow ∈ past, flow.CleanedUp) (htoken : last.outcome ≠ some (.ok "")) (hf : f < past.length)
    {outcome : Outcome} (h : past[f]? = some (.finallyRan outcome)) :
    Sound ⟨config, last.clientId, last.pending, some past.length,
      (past ++ [last]).set f (.resolved outcome)⟩ := by
  obtain ⟨-, e, houtcome⟩ := hpast _ (List.mem_of_getElem? h)
  have hset : ∀ flow ∈ past.set f (.resolved outcome), flow.CleanedUp := by
    intro flow hmem
    rcases List.mem_or_eq_of_mem_set hmem with hmem | rfl
    · exact hpast flow hmem
    · exact ⟨rfl, e, houtcome⟩
  have hsound : Sound ⟨config, last.clientId, last.pending, some (past.set f (.resolved outcome)).length,
      past.set f (.resolved outcome) ++ [last]⟩ := .used hset htoken
  rwa [List.length_set, ← List.set_append_left _ _ hf] at hsound

lemma moved_flow (hstep : FlowStep f this this') : ∃ flow flow', this.flows[f]? = some flow ∧
    this'.flows = this.flows.set f flow' ∧ (flow.outcome = none ∨ flow'.outcome = flow.outcome) := by
  cases hstep with
  | loginReply h reply => exact ⟨_, _, h, rfl, .inl rfl⟩
  | authenticateReply h reply hreply => exact ⟨_, _, h, rfl, .inl rfl⟩
  | _ h => exact ⟨_, _, h, rfl, .inr rfl⟩

lemma Sound.flowStep (h : this.Sound) (hstep : FlowStep f this this') : this'.Sound := by
  cases h with
  | unused =>
    obtain ⟨flow, flow', hflow, -⟩ := moved_flow hstep
    exact absurd hflow (by simp [create])
  | @used config past last hpast htoken =>
    -- all flows but the latest have been cleaned up, and only `resolve` is left to them
    have hlast : ∀ {flow}, (past ++ [last])[f]? = some flow → flow.pending = true →
        f = past.length ∧ flow = last := by
      intro flow hflow hpending
      rcases getElem?_last hflow with ⟨hf, hflow⟩ | hlast
      · exact absurd ((hpast flow (List.mem_of_getElem? hflow)).1.symm.trans hpending) (by simp)
      · exact hlast
    cases hstep with
    | loginReply hflow reply =>
      obtain ⟨rfl, rfl⟩ := hlast hflow rfl
      obtain ⟨hclient, hpending, houtcome⟩ := afterLogin_fields reply
      exact .last_step hpast houtcome hclient.symm hpending.symm
    | authenticateReply hflow reply hreply =>
      obtain ⟨rfl, rfl⟩ := hlast hflow rfl
      obtain ⟨hclient, hpending, houtcome⟩ := afterAuthenticate_fields hreply
      exact .last_step hpast houtcome hclient.symm hpending.symm
    | fulfilled hflow =>
      obtain ⟨rfl, rfl⟩ := hlast hflow rfl
      exact .last_step hpast htoken rfl rfl
    | rejected hflow =>
      obtain ⟨rfl, rfl⟩ := hlast hflow rfl
      exact .last_step hpast htoken rfl rfl
    | @finally_ outcome hflow =>
      obtain ⟨rfl, rfl⟩ := hlast hflow rfl
      exact .last_step hpast htoken (by cases outcome <;> rfl) rfl
    | @resolve outcome hflow =>
      rcases getElem?_last hflow with ⟨hf, hflow⟩ | ⟨rfl, rfl⟩
      · exact .past_step hpast htoken hf hflow
      · exact .last_step hpast htoken (by cases outcome <;> rfl) rfl

lemma Sound.start (hflows : ∀ flow ∈ this.flows, flow.CleanedUp) (hclient : this.clientId = none) :
    (startFlow this).1.Sound := by
  have hsound : Sound ⟨this.config, (Flow.login (login this.config)).clientId,
      (Flow.login (login this.config)).pending, some this.flows.length,
      this.flows ++ [.login (login this.config)]⟩ := .used hflows (by simp [Flow.outcome])
  rwa [startFlow, hclient]

/-- What `getToken` does: it returns the token of the flow that has succeeded, joins the flow
whose `.finally` callback has not run, or, when all flows so far have failed, starts one. -/
theorem Sound.getToken_cases (h : this.Sound) :
    (∃ token f, this.outcome f = some (.ok token) ∧ this.clientId = some token ∧
      this.getToken = (this, .token token)) ∨
    (∃ f, this.Pending f ∧ this.getToken = (this, .promise f)) ∨
    ((∀ flow ∈ this.flows, flow.CleanedUp) ∧ this.clientId = none ∧ this.getToken = startFlow this) := by
  cases h with
  | unused => exact .inr (.inr ⟨by simp [create], rfl, rfl⟩)
  | @used config past last hpast htoken =>
    have hlast : (past ++ [last])[past.length]? = some last := by simp
    have hpending : last.pending = true → Pending ⟨config, last.clientId, last.pending, some past.length,
        past ++ [last]⟩ past.length := fun h => ⟨last, hlast, h⟩
    have hfailed : last.CleanedUp → ∀ flow ∈ past ++ [last], flow.CleanedUp := by
      intro h flow hmem
      rcases List.mem_append.mp hmem with hmem | hmem
      · exact hpast flow hmem
      · rwa [List.mem_singleton.mp hmem]
    have hcached : ∀ {token}, last.outcome = some (.ok token) → last.clientId = some token →
        outcome ⟨config, last.clientId, last.pending, some past.length, past ++ [last]⟩ past.length =
            some (.ok token) ∧
          getToken ⟨config, last.clientId, last.pending, some past.length, past ++ [last]⟩ =
            (⟨config, last.clientId, last.pending, some past.length, past ++ [last]⟩, .token token) := by
      intro token houtcome hclient
      have hne : token ≠ "" := by
        rintro rfl
        exact htoken houtcome
      refine ⟨by rw [outcome, hlast]; exact houtcome, ?_⟩
      simp only [getToken, hclient, Option.filter_some, hne, ne_eq, not_false_eq_true, decide_true, if_true]
    cases last with
    | login post => exact .inr (.inl ⟨_, hpending rfl, rfl⟩)
    | authenticate post => exact .inr (.inl ⟨_, hpending rfl, rfl⟩)
    | settled outcome => exact .inr (.inl ⟨_, hpending rfl, rfl⟩)
    | thenRan outcome =>
      cases outcome with
      | ok token => exact .inl ⟨token, _, (hcached rfl rfl).1, rfl, (hcached rfl rfl).2⟩
      | error e => exact .inr (.inl ⟨_, hpending rfl, rfl⟩)
    | finallyRan outcome =>
      cases outcome with
      | ok token => exact .inl ⟨token, _, (hcached rfl rfl).1, rfl, (hcached rfl rfl).2⟩
      | error e => exact .inr (.inr ⟨hfailed ⟨rfl, e, rfl⟩, rfl, rfl⟩)
    | resolved outcome =>
      cases outcome with
      | ok token => exact .inl ⟨token, _, (hcached rfl rfl).1, rfl, (hcached rfl rfl).2⟩
      | error e => exact .inr (.inr ⟨hfailed ⟨rfl, e, rfl⟩, rfl, rfl⟩)

lemma Sound.live_unique (h : this.Sound) {f g : ℕ} {flow flow' : Flow} (hf : this.flows[f]? = some flow)
    (hg : this.flows[g]? = some flow') (hlive : ¬flow.CleanedUp) (hlive' : ¬flow'.CleanedUp) : f = g := by
  cases h with
  | unused => exact absurd hf (by simp [create])
  | used hpast htoken =>
    rcases getElem?_last hf with ⟨-, hf⟩ | ⟨rfl, -⟩
    · exact absurd (hpast _ (List.mem_of_getElem? hf)) hlive
    · rcases getElem?_last hg with ⟨-, hg⟩ | ⟨rfl, -⟩
      · exact absurd (hpast _ (List.mem_of_getElem? hg)) hlive'
      · rfl

lemma not_cleanedUp_of_ok {flow : Flow} {token : String} (h : flow.outcome = some (.ok token)) :
    ¬flow.CleanedUp := by
  rintro ⟨-, e, he⟩
  exact absurd (h.symm.trans he) (by simp)

lemma not_cleanedUp_of_pending {flow : Flow} (h : flow.pending = true) : ¬flow.CleanedUp :=
  fun hclean => absurd (hclean.1.symm.trans h) (by simp)

/-- After a success no flow is started: calls get the token at once or from this flow. -/
lemma Sound.getToken_of_success (h : this.Sound) {token : String}
    (hf : this.outcome f = some (.ok token)) :
    this.getToken = (this, .token token) ∨ this.getToken = (this, .promise f) := by
  obtain ⟨flow, hflow, houtcome⟩ := Option.bind_eq_some_iff.mp hf
  rcases h.getToken_cases with ⟨token', g, hg, -, hget⟩ |
    ⟨g, ⟨flow', hflow', hpending⟩, hget⟩ | ⟨hfailed, -, -⟩
  · obtain ⟨flow', hflow', houtcome'⟩ := Option.bind_eq_some_iff.mp hg
    obtain rfl := h.live_unique hflow hflow' (not_cleanedUp_of_ok houtcome) (not_cleanedUp_of_ok houtcome')
    have hsame : some (.ok token) = some (.ok token' : Outcome) := hf.symm.trans hg
    obtain rfl := Except.ok.inj (Option.some.inj hsame)
    exact .inl hget
  · obtain rfl := h.live_unique hflow hflow' (not_cleanedUp_of_ok houtcome)
      (not_cleanedUp_of_pending hpending)
    exact .inr hget
  · exact absurd (hfailed flow (List.mem_of_getElem? hflow)) (not_cleanedUp_of_ok houtcome)

/-- Once the latest flow has been cleaned up, so have all, and a call starts anew. -/
lemma Sound.getToken_of_cleanedUp (h : this.Sound) {flow : Flow} (hlast : this.flows.getLast? = some flow)
    (hclean : flow.CleanedUp) : this.getToken = startFlow this := by
  have hall : ∀ flow ∈ this.flows, flow.CleanedUp := by
    cases h with
    | unused => exact absurd hlast (by simp [create])
    | @used config past last hpast htoken =>
      intro flow' hmem
      rcases List.mem_append.mp hmem with hmem | hmem
      · exact hpast flow' hmem
      · obtain rfl : last = flow := by simpa using hlast
        rwa [List.mem_singleton.mp hmem]
  rcases h.getToken_cases with ⟨token, f, hf, -, -⟩ | ⟨f, ⟨flow', hflow', hpending⟩, -⟩ | ⟨-, -, hget⟩
  · obtain ⟨flow', hflow', houtcome⟩ := Option.bind_eq_some_iff.mp hf
    exact absurd (hall flow' (List.mem_of_getElem? hflow')) (not_cleanedUp_of_ok houtcome)
  · exact absurd (hall flow' (List.mem_of_getElem? hflow')) (not_cleanedUp_of_pending hpending)
  · exact hget

lemma Sound.getToken_sound (h : this.Sound) : (getToken this).1.Sound := by
  rcases h.getToken_cases with ⟨token, g, -, -, hget⟩ | ⟨g, -, hget⟩ | ⟨hfailed, hclient, hget⟩
  · rw [hget]
    exact h
  · rw [hget]
    exact h
  · rw [hget]
    exact .start hfailed hclient

lemma Later.refl (this : SoftoneAdapter) : Later this this := ⟨Nat.le_refl _, id⟩

lemma Later.trans {a b c : SoftoneAdapter} (h : Later a b) (h' : Later b c) : Later a c :=
  ⟨Nat.le_trans h.length h'.length, fun ho => h'.outcome (h.outcome ho)⟩

lemma later_flowStep (hstep : FlowStep f this this') : Later this this' := by
  obtain ⟨flow, flow', hflow, hflows, hkeeps⟩ := moved_flow hstep
  refine ⟨Nat.le_of_eq (by rw [hflows, List.length_set]), ?_⟩
  intro g o hg
  obtain ⟨flow₀, hflow₀, houtcome⟩ := Option.bind_eq_some_iff.mp hg
  unfold outcome
  rw [hflows]
  by_cases hfg : f = g
  · subst hfg
    obtain rfl := Option.some.inj (hflow.symm.trans hflow₀)
    rw [getElem?_moved hflow]
    rcases hkeeps with hnone | hsame
    · exact absurd (hnone.symm.trans houtcome) (by simp)
    · exact hsame.trans houtcome
  · rw [List.getElem?_set_ne hfg]
    exact hg

lemma later_startFlow (this : SoftoneAdapter) : Later this (startFlow this).1 := by
  refine ⟨by simp [startFlow], ?_⟩
  intro g o hg
  obtain ⟨flow, hflow, houtcome⟩ := Option.bind_eq_some_iff.mp hg
  obtain ⟨hlt, -⟩ := List.getElem?_eq_some_iff.mp hflow
  simp only [outcome, startFlow, List.getElem?_append_left hlt, hflow]
  exact houtcome

/-- A call starts no flow or the next one, and what it returns is the cached token, or the
promise of a flow whose `.finally` callback has not run. -/
lemma Sound.getToken_later (h : this.Sound) : Later this (getToken this).1 ∧
    ((∃ token, (getToken this).2 = .token token ∧ this.clientId = some token) ∨
      ∃ f, (getToken this).2 = .promise f ∧ f < (getToken this).1.flows.length ∧
        (this.Pending f ∨ f = this.flows.length)) := by
  rcases h.getToken_cases with ⟨token, g, -, hclient, hget⟩ | ⟨g, hpending, hget⟩ | ⟨-, -, hget⟩
  · rw [hget]
    exact ⟨.refl _, .inl ⟨token, rfl, hclient⟩⟩
  · rw [hget]
    obtain ⟨flow, hflow, -⟩ := id hpending
    exact ⟨.refl _, .inr ⟨g, rfl, (List.getElem?_eq_some_iff.mp hflow).1, .inl hpending⟩⟩
  · rw [hget]
    exact ⟨later_startFlow this, .inr ⟨this.flows.length, rfl, by simp [startFlow], .inr rfl⟩⟩

end SoftoneAdapter

def TokenCall.Sound (this : SoftoneAdapter) : TokenCall → Prop
  | called => True
  | waiting found f =>
      found.Sound ∧ (getToken found).2 = .promise f ∧ f < this.flows.length ∧ Later found this
  | ended found returned outcome => found.Sound ∧ (getToken found).2 = returned ∧ Later found this ∧
      match returned with
      | .token token => outcome = .ok token
      | .promise f => this.outcome f = some outcome

lemma TokenCall.Sound.later {this this' : SoftoneAdapter} {call : TokenCall} (h : call.Sound this)
    (hlater : Later this this') : call.Sound this' := by
  cases call with
  | called => trivial
  | waiting found f =>
    obtain ⟨hfound, hreturned, hf, hpast⟩ := h
    exact ⟨hfound, hreturned, Nat.lt_of_lt_of_le hf hlater.length, hpast.trans hlater⟩
  | ended found returned outcome =>
    obtain ⟨hfound, hreturned, hpast, houtcome⟩ := h
    refine ⟨hfound, hreturned, hpast.trans hlater, ?_⟩
    cases returned with
    | token token => exact houtcome
    | promise f => exact hlater.outcome houtcome

lemma CallMove.later {this this' : SoftoneAdapter} {call call' : TokenCall} (h : this.Sound)
    (hmove : CallMove this call this' call') : Later this this' := by
  have hlater := h.getToken_later.1
  cases hmove with
  | cached hget => rwa [hget] at hlater
  | joins hget => rwa [hget] at hlater
  | resumes hflow => exact .refl _

/-- The fields follow the latest flow, and every call knows where its answer comes from. -/
def softoneOutline : Outline softoneSystem where
  inv := SoftoneAdapter.Sound
  asserts this call := call.Sound this
  start := by
    rintro this call - rfl
    trivial
  ambient := by
    rintro this this' h ⟨f, hstep⟩
    exact ⟨h.flowStep hstep, fun call hcall => hcall.later (later_flowStep hstep)⟩
  move := by
    rintro this call this' call' h hcall hmove
    have hlater := CallMove.later h hmove
    cases hmove with
    | cached hget =>
      have hsound := h.getToken_sound
      rw [hget] at hsound
      exact ⟨hsound, h, by rw [hget], hlater, rfl⟩
    | joins hget =>
      have hreturned := h.getToken_later.2
      have hsound := h.getToken_sound
      rw [hget] at hsound hreturned
      refine ⟨hsound, h, by rw [hget], ?_, hlater⟩
      rcases hreturned with ⟨token, hreturned, -⟩ | ⟨f, hreturned, hf, -⟩
      · exact absurd hreturned (by simp)
      · rwa [Returned.promise.inj hreturned]
    | resumes hflow =>
      obtain ⟨hfound, hreturned, -, hpast⟩ := hcall
      refine ⟨h, hfound, hreturned, hpast, ?_⟩
      simp [SoftoneAdapter.outcome, hflow, Flow.outcome]
  frame := by
    rintro this call other this' call' h hcall hother - - hmove
    exact ⟨hother.later (CallMove.later h hmove), trivial⟩

/-! ### Single flight -/

/-- The login of an adapter is shared by all callers. -/
structure SingleFlight (p : Pool SoftoneAdapter TokenCall) : Prop where
  /-- At most one flow has started and not settled. -/
  one : ∀ {f g : ℕ}, p.shared.InFlight f → p.shared.InFlight g → f = g
  /-- A call ends with the token that was cached when it was made, or with the outcome of a flow
  that had not been cleaned up then: one that was there, or the one that the call started. -/
  ended : ∀ {i : ℕ} {found : SoftoneAdapter} {returned : Returned} {outcome : Outcome},
    p.threads[i]? = some (.ended found returned outcome) →
      (∃ token, found.clientId = some token ∧ outcome = .ok token) ∨
      ∃ f, p.shared.outcome f = some outcome ∧ (found.Pending f ∨ f = found.flows.length)
  /-- Once the latest flow has failed and been cleaned up, the next call starts a flow. -/
  fresh : ∀ {flow : Flow}, p.shared.flows.getLast? = some flow → flow.CleanedUp →
    p.shared.getToken = startFlow p.shared
  /-- After a success no login is sent again, -/
  success : ∀ {f : ℕ} {token : String}, p.shared.outcome f = some (.ok token) →
    ∀ q, Run softoneSystem p q → q.shared.flows.length = p.shared.flows.length
  /-- and every call made from then on ends with the token of the flow that succeeded. -/
  later : ∀ {i : ℕ} {found : SoftoneAdapter} {returned : Returned} {outcome : Outcome} {f : ℕ}
    {token : String},
    p.threads[i]? = some (.ended found returned outcome) → found.outcome f = some (.ok token) →
      outcome = .ok token
  /-- No call waits for nothing: replies and callbacks can end it. -/
  ends : ∀ {i : ℕ} {found : SoftoneAdapter} {f : ℕ}, p.threads[i]? = some (.waiting found f) →
    ∃ q outcome, Run softoneSystem p q ∧ q.threads[i]? = some (.ended found (.promise f) outcome)

section Runs

variable {p q : Pool SoftoneAdapter TokenCall}

lemma length_step (h : p.shared.Sound) {f : ℕ} {token : String}
    (hf : p.shared.outcome f = some (.ok token)) (hstep : Step softoneSystem p q) :
    q.shared.flows.length = p.shared.flows.length := by
  cases hstep with
  | start hs => rfl
  | ambient hambient =>
    obtain ⟨g, hflow⟩ := hambient
    obtain ⟨flow, flow', -, hflows, -⟩ := moved_flow hflow
    rw [hflows, List.length_set]
  | move hi hp hmove =>
    have hsame : (getToken p.shared).1 = p.shared := by
      rcases h.getToken_of_success hf with hget | hget <;> rw [hget]
    cases hmove with
    | cached hget =>
      rw [hget] at hsame
      rw [← hsame]
    | joins hget =>
      rw [hget] at hsame
      rw [← hsame]
    | resumes hflow => rfl

lemma later_step (h : p.shared.Sound) (hstep : Step softoneSystem p q) : Later p.shared q.shared := by
  cases hstep with
  | start hs => exact .refl _
  | ambient hambient =>
    obtain ⟨g, hflow⟩ := hambient
    exact later_flowStep hflow
  | move hi hp hmove => exact CallMove.later h hmove

abbrev Replies : SoftoneAdapter → SoftoneAdapter → Prop :=
  Relation.ReflTransGen fun this this' => ∃ f, FlowStep f this this'

lemma replies_run {this this' : SoftoneAdapter} (h : Replies this this') (calls : List TokenCall) :
    Run softoneSystem ⟨this, calls⟩ ⟨this', calls⟩ := by
  induction h with
  | refl => exact .refl
  | tail _ hstep ih => exact ih.tail (.ambient hstep)

/-- Replies and callbacks can settle the promise that the callers of flow `f` wait for. -/
def Resolves (f : ℕ) (this : SoftoneAdapter) : Prop :=
  ∃ this' outcome, Replies this this' ∧ this'.flows[f]? = some (.resolved outcome)

lemma Resolves.of_step {this this' : SoftoneAdapter} {f : ℕ} (h : Resolves f this')
    (hstep : FlowStep f this this') : Resolves f this := by
  obtain ⟨this'', outcome, hreplies, hflow⟩ := h
  exact ⟨this'', outcome, .head ⟨f, hstep⟩ hreplies, hflow⟩

lemma resolves {f : ℕ} {flow : Flow} :
    ∀ {this : SoftoneAdapter}, this.flows[f]? = some flow → Resolves f this := by
  have hresolved : ∀ {this : SoftoneAdapter} {outcome}, this.flows[f]? = some (.resolved outcome) →
      Resolves f this := fun h => ⟨_, _, .refl, h⟩
  have hfinally : ∀ {this : SoftoneAdapter} {outcome}, this.flows[f]? = some (.finallyRan outcome) →
      Resolves f this := fun h => (hresolved (getElem?_moved h)).of_step (.resolve h)
  have hthen : ∀ {this : SoftoneAdapter} {outcome}, this.flows[f]? = some (.thenRan outcome) →
      Resolves f this := fun h => (hfinally (getElem?_moved h)).of_step (.finally_ h)
  have hsettled : ∀ {this : SoftoneAdapter} {outcome}, this.flows[f]? = some (.settled outcome) →
      Resolves f this := by
    intro this outcome h
    cases outcome with
    | ok token => exact (hthen (getElem?_moved h)).of_step (.fulfilled h)
    | error e => exact (hthen (getElem?_moved h)).of_step (.rejected h)
  intro this h
  cases flow with
  | login post =>
    have hstep := FlowStep.loginReply h (.error (.error "AxiosError" "Network Error"))
    exact (hsettled (getElem?_moved h)).of_step hstep
  | authenticate post =>
    have hstep := FlowStep.authenticateReply h (.error (.error "AxiosError" "Network Error")) (by simp)
    exact (hsettled (getElem?_moved h)).of_step hstep
  | settled outcome => exact hsettled h
  | thenRan outcome => exact hthen h
  | finallyRan outcome => exact hfinally h
  | resolved outcome => exact hresolved h

lemma flows_length_run (h : softoneOutline.Holds p) {f : ℕ} {token : String}
    (hf : p.shared.outcome f = some (.ok token)) (hrun : Run softoneSystem p q) :
    q.shared.flows.length = p.shared.flows.length := by
  have hall : q.shared.flows.length = p.shared.flows.length ∧ softoneOutline.Holds q ∧
      q.shared.outcome f = some (.ok token) := by
    induction hrun with
    | refl => exact ⟨rfl, h, hf⟩
    | tail _ hstep ih =>
      obtain ⟨hlength, hholds, hsuccess⟩ := ih
      exact ⟨(length_step hholds.inv hsuccess hstep).trans hlength, softoneOutline.holds_step hholds hstep,
        (later_step hholds.inv hstep).outcome hsuccess⟩
  exact hall.1

lemma ended_cases {found : SoftoneAdapter} {returned : Returned} {outcome : Outcome}
    (h : TokenCall.Sound p.shared (.ended found returned outcome)) :
    (∃ token, found.clientId = some token ∧ outcome = .ok token) ∨
      ∃ f, p.shared.outcome f = some outcome ∧ (found.Pending f ∨ f = found.flows.length) := by
  obtain ⟨hfound, hreturned, -, houtcome⟩ := h
  rcases hfound.getToken_later.2 with ⟨token, htoken, hclient⟩ | ⟨f, hpromise, -, hf⟩
  · obtain rfl := hreturned.symm.trans htoken
    exact .inl ⟨token, hclient, houtcome⟩
  · obtain rfl := hreturned.symm.trans hpromise
    exact .inr ⟨f, houtcome, hf⟩

lemma ended_of_success {found : SoftoneAdapter} {returned : Returned} {outcome : Outcome} {f : ℕ}
    {token : String} (h : TokenCall.Sound p.shared (.ended found returned outcome))
    (hf : found.outcome f = some (.ok token)) : outcome = .ok token := by
  obtain ⟨hfound, hreturned, hpast, houtcome⟩ := h
  rcases hfound.getToken_of_success hf with hget | hget <;> rw [hget] at hreturned <;> subst hreturned
  · exact houtcome
  · exact Option.some.inj (houtcome.symm.trans (hpast.outcome hf))

/-- In every reachable state the calls of one adapter share one login. -/
theorem singleFlight_run {config : SoftoneConfig} (hrun : Run softoneSystem ⟨create config, []⟩ p) :
    SingleFlight p := by
  have hholds : softoneOutline.Holds p :=
    softoneOutline.holds_run (softoneOutline.holds_empty SoftoneAdapter.Sound.unused) hrun
  have hsound : p.shared.Sound := hholds.inv
  refine ⟨?_, ?_, ?_, ?_, ?_, ?_⟩
  · rintro f g ⟨flow, hflow, hnone⟩ ⟨flow', hflow', hnone'⟩
    have hlive : ∀ {flow : Flow}, flow.outcome = none → ¬flow.CleanedUp := by
      rintro flow hnone ⟨-, e, he⟩
      exact absurd (hnone.symm.trans he) (by simp)
    exact hsound.live_unique hflow hflow' (hlive hnone) (hlive hnone')
  · intro i found returned outcome hcall
    exact ended_cases (hholds.asserts hcall)
  · intro flow hlast hclean
    exact hsound.getToken_of_cleanedUp hlast hclean
  · intro f token hf q hq
    exact flows_length_run hholds hf hq
  · intro i found returned outcome f token hcall hf
    exact ended_of_success (hholds.asserts hcall) hf
  · intro i found f hcall
    obtain ⟨-, -, hf, -⟩ := show TokenCall.Sound p.shared (.waiting found f) from hholds.asserts hcall
    obtain ⟨this', outcome, hreplies, hflow⟩ := resolves (List.getElem?_eq_getElem hf)
    have hresumed : Step softoneSystem ⟨this', p.threads⟩ _ :=
      .move hcall (fun _ _ _ _ => trivial) (CallMove.resumes hflow)
    exact ⟨_, outcome, (replies_run hreplies p.threads).tail hresumed, getElem?_moved hcall⟩

end Runs

namespace Sample

def softone : SoftoneConfig := ⟨"https://shop.oncloud.gr/s1services", "ana", "pw", "1001"⟩

def unreachable : Exception := .error "AxiosError" "Network Error"

/-- The adapter after two calls, and after the flow that they share has failed and settled. -/
def joined : SoftoneAdapter := (create softone).getToken.1

def failed : SoftoneAdapter := ⟨softone, none, false, some 0, [.resolved (.error unreachable)]⟩

lemma joined_replies : Replies joined failed :=
  .head ⟨0, .loginReply rfl (.error unreachable)⟩ (.head ⟨0, .rejected rfl⟩
    (.head ⟨0, .finally_ rfl⟩ (.single ⟨0, .resolve rfl⟩)))

end Sample

open Sample in
/-- Two callers wait for one flow; it fails, the first of them is told so, and a third starts another
flow. -/
theorem singleFlight_run_retry : ∃ p, Run softoneSystem ⟨create softone, []⟩ p ∧
    p.shared.flows = [.resolved (.error unreachable), .login (login softone)] ∧
    p.threads = [.ended (create softone) (.promise 0) (.error unreachable), .waiting joined 0,
      .waiting failed 1] ∧ SingleFlight p := by
  have hfirst : CallMove (create softone) .called joined (.waiting (create softone) 0) := .joins rfl
  have hsecond : CallMove joined .called joined (.waiting joined 0) := .joins rfl
  have hthird : CallMove failed .called failed.getToken.1 (.waiting failed 1) := .joins rfl
  have hresumed : CallMove failed.getToken.1 (.waiting (create softone) 0) failed.getToken.1
      (.ended (create softone) (.promise 0) (.error unreachable)) := .resumes rfl
  have hstart : Run softoneSystem ⟨create softone, []⟩ ⟨create softone, [.called, .called, .called]⟩ :=
    .tail (.tail (.single (.start rfl)) (.start rfl)) (.start rfl)
  have hshared := (hstart.tail (.move (i := 0) rfl (fun _ _ _ _ => trivial) hfirst)).tail
    (.move (i := 1) rfl (fun _ _ _ _ => trivial) hsecond)
  have hfailed := hshared.trans (replies_run joined_replies _)
  have hrun := (hfailed.tail (.move (i := 2) rfl (fun _ _ _ _ => trivial) hthird)).tail
    (.move (i := 0) rfl (fun _ _ _ _ => trivial) hresumed)
  exact ⟨_, hrun, rfl, rfl, singleFlight_run hrun⟩

end NextLevelApi
