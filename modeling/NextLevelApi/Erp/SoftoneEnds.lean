import NextLevelApi.Erp.Softone
import NextLevelApi.Library.Completion

/-!
# Every call of getToken ends

Calls of `getToken` wait for each other's flows. None of them waits for ever: with every reply
and callback something is used up, and as long as a call waits there is one to come.
-/

namespace NextLevelApi
open SoftoneAdapter ThreadPool

/-- How many replies and callbacks a flow can still take. -/
def Flow.left : Flow → ℕ
  | login _ => 5
  | authenticate _ => 4
  | settled _ => 3
  | thenRan _ => 2
  | finallyRan _ => 1
  | resolved _ => 0

def SoftoneAdapter.left (this : SoftoneAdapter) : ℕ := (this.flows.map Flow.left).sum

/-- A new call may start a flow and then has to be resumed. -/
def TokenCall.weight : TokenCall → ℕ
  | called => 7
  | waiting _ _ => 1
  | ended _ _ _ => 0

def TokenCall.Ended : TokenCall → Prop
  | ended _ _ _ => True
  | _ => False

section Effort

variable {this this' : SoftoneAdapter} {f : ℕ} {returned : Returned}
  {call call' : TokenCall} {p q : Pool SoftoneAdapter TokenCall}

lemma left_set_lt {flow flow' : Flow} (h : this.flows[f]? = some flow) (hlt : flow'.left < flow.left) :
    ((this.flows.set f flow').map Flow.left).sum < this.left := by
  have hset := sum_map_set Flow.left flow' h
  unfold SoftoneAdapter.left
  omega

lemma left_afterLogin (reply : Except Exception (SoftoneResponseDto LoginSuccess)) :
    (afterLogin reply).left ≤ 4 := by
  rcases reply with e | ⟨loginResult⟩ | ⟨errorcode, error⟩
  · exact Nat.le_succ 3
  · cases hobj : loginResult.objs.head? <;> simp [afterLogin, hobj, Flow.left]
  · exact Nat.le_succ 3

lemma left_afterAuthenticate (reply : Except Exception (SoftoneResponseDto String)) :
    (afterAuthenticate reply).left = 3 := by
  rcases reply with e | ⟨clientID⟩ | ⟨errorcode, error⟩ <;> rfl

lemma left_flowStep (h : FlowStep f this this') : this'.left < this.left := by
  cases h with
  | loginReply hflow reply => exact left_set_lt hflow (Nat.lt_succ_of_le (left_afterLogin reply))
  | authenticateReply hflow reply hreply =>
    exact left_set_lt hflow (Nat.lt_succ_of_le (left_afterAuthenticate reply).le)
  | _ hflow => exact left_set_lt hflow (Nat.lt_succ_self _)

lemma getToken_flows (h : this.getToken = (this', returned)) : this'.flows = this.flows ∨
    this'.flows = this.flows ++ [.login (login this.config)] := by
  have hflows : (getToken this).1.flows = this.flows ∨
      (getToken this).1.flows = this.flows ++ [.login (login this.config)] := by
    unfold getToken
    split
    · exact .inl rfl
    · split
      · exact .inl rfl
      · exact .inr rfl
  rwa [h] at hflows

lemma left_getToken (h : this.getToken = (this', returned)) : this'.left ≤ this.left + 5 := by
  rcases getToken_flows h with hflows | hflows <;> simp [SoftoneAdapter.left, hflows, Flow.left]

lemma CallMove.left_weight (h : CallMove this call this' call') :
    this'.left + call'.weight < this.left + call.weight := by
  cases h with
  | cached hget =>
    have hleft := left_getToken hget
    simp only [TokenCall.weight]
    omega
  | joins hget =>
    have hleft := left_getToken hget
    simp only [TokenCall.weight]
    omega
  | resumes hflow => exact Nat.lt_succ_self _

def softoneEffort : Effort softoneSystem fun _ _ => True where
  left := SoftoneAdapter.left
  weight := TokenCall.weight
  move h := h.left_weight
  ambient h _ := h.elim fun _ hstep => left_flowStep hstep
  idle _ h := absurd trivial h

/-- A flow that has not resolved is about to take a reply or a callback. -/
lemma flowStep_of_not_resolved {flow : Flow} (h : this.flows[f]? = some flow)
    (hflow : ∀ outcome, flow ≠ .resolved outcome) : ∃ this', FlowStep f this this' := by
  cases flow with
  | login post => exact ⟨_, .loginReply h (.error (.error "AxiosError" "Network Error"))⟩
  | authenticate post =>
    exact ⟨_, .authenticateReply h (.error (.error "AxiosError" "Network Error")) (by simp)⟩
  | settled outcome =>
    cases outcome with
    | ok token => exact ⟨_, .fulfilled h⟩
    | error e => exact ⟨_, .rejected h⟩
  | thenRan outcome => exact ⟨_, .finally_ h⟩
  | finallyRan outcome => exact ⟨_, .resolve h⟩
  | resolved outcome => exact absurd rfl (hflow outcome)

/-- While a call has not ended, it can go on, or the flow that it waits for can. -/
lemma works_of_not_ended (h : softoneOutline.Holds p) (hcall : call ∈ p.threads) (hended : ¬call.Ended) :
    ∃ q, Works softoneSystem (fun _ _ => True) p q := by
  obtain ⟨i, hi⟩ := List.mem_iff_getElem?.mp hcall
  have hmove : ∀ {this' call'}, CallMove p.shared call this' call' →
      ∃ q, Works softoneSystem (fun _ _ => True) p q :=
    fun hmove => ⟨_, .move hi (fun _ _ _ _ => trivial) hmove⟩
  cases call with
  | called =>
    cases hget : p.shared.getToken with
    | mk this' returned =>
      cases returned with
      | token clientId => exact hmove (.cached hget)
      | promise f => exact hmove (.joins hget)
  | waiting found f =>
    obtain ⟨-, -, hf, -⟩ := show TokenCall.Sound p.shared (.waiting found f) from h.asserts hi
    have hflow := List.getElem?_eq_getElem hf
    by_cases hresolved : ∃ outcome, p.shared.flows[f] = .resolved outcome
    · obtain ⟨outcome, houtcome⟩ := hresolved
      exact hmove (.resumes (hflow.trans (congrArg some houtcome)))
    · obtain ⟨this', hstep⟩ := flowStep_of_not_resolved hflow fun o ho => hresolved ⟨o, ho⟩
      exact ⟨_, .helps ⟨f, hstep⟩ trivial⟩
  | ended found returned outcome => exact absurd trivial hended

def TokenCall.unmade : TokenCall → ℕ
  | called => 1
  | _ => 0

/-- Each call starts one flow at most. -/
lemma flows_length_le {config : SoftoneConfig} (h : Run softoneSystem ⟨create config, []⟩ p) :
    p.shared.flows.length + (p.threads.map TokenCall.unmade).sum ≤ p.threads.length := by
  induction h with
  | refl => exact Nat.le_refl 0
  | @tail p q _ hstep ih =>
    cases hstep with
    | start hs =>
      obtain rfl := hs
      simpa [TokenCall.unmade, ← Nat.add_assoc] using ih
    | ambient hs =>
      obtain ⟨f, hflow⟩ := hs
      obtain ⟨flow, flow', -, hflows, -⟩ := moved_flow hflow
      rwa [hflows, List.length_set]
    | @move i call call' this' hi hp hmove =>
      have hset := sum_map_set TokenCall.unmade call' hi
      rw [List.length_set]
      have hlength : ∀ {returned}, p.shared.getToken = (this', returned) →
          this'.flows.length ≤ p.shared.flows.length + 1 := by
        intro returned hget
        rcases getToken_flows hget with hflows | hflows <;> simp [hflows]
      cases hmove with
      | cached hget =>
        have hflows := hlength hget
        simp only [TokenCall.unmade] at hset ⊢
        omega
      | joins hget =>
        have hflows := hlength hget
        simp only [TokenCall.unmade] at hset ⊢
        omega
      | resumes hflow =>
        simp only [TokenCall.unmade] at hset ⊢
        omega

end Effort

/-- Each call of an adapter starts one flow at most. From any state on there are at most seven
replies, callbacks and returns for each call until nothing is left to come, and then every call
has ended. -/
theorem getToken_ends {config : SoftoneConfig} {p : Pool SoftoneAdapter TokenCall}
    (hrun : Run softoneSystem ⟨create config, []⟩ p) :
    p.shared.flows.length ≤ p.threads.length ∧
      EndsWithin softoneSystem (fun _ _ => True) TokenCall.Ended (p.threads.length * 7) p := by
  refine ⟨Nat.le_trans (Nat.le_add_right _ _) (flows_length_le hrun), ?_⟩
  have hholds : softoneOutline.Holds p :=
    softoneOutline.holds_run (softoneOutline.holds_empty SoftoneAdapter.Sound.unused) hrun
  have htotal : softoneEffort.total p ≤ p.threads.length * 7 := by
    have hle := softoneEffort.total_le_of_run (k := 7)
      (fun call hcall => Nat.le_of_eq (by rw [hcall]; rfl)) hrun
    exact hle.trans_eq (Nat.zero_add _)
  refine softoneEffort.endsWithin htotal fun n q hclosed call hcall hended => ?_
  exact works_of_not_ended (softoneOutline.holds_run hholds hclosed.run) hcall hended

theorem getToken_ends_two_calls : ∃ p, Run softoneSystem ⟨create Sample.softone, []⟩ p ∧
    p.threads = [.called, .called] ∧ EndsWithin softoneSystem (fun _ _ => True) TokenCall.Ended 14 p := by
  have hrun : Run softoneSystem ⟨create Sample.softone, []⟩ ⟨create Sample.softone, [.called, .called]⟩ :=
    .tail (.single (.start rfl)) (.start rfl)
  exact ⟨_, hrun, rfl, (getToken_ends hrun).2⟩

end NextLevelApi
