import StorePulse.Backend.Receipts
import StorePulse.Simulator.Posts

/-!
# A producer and the backend

One producer posts to the backend over a network, and other clients call the
backend too.  A post reaches the backend at most once and at any time after it
was made, even when its worker has long gone on, or it is lost for good.  The
call of `client.post` ends with a transport error at any time, with a retryable
status that an intermediary sends at any time, or with the response of the
backend to this post.

A body the schema refuses is answered 422 and reaches no endpoint.
-/

namespace StorePulse

/-! ## Responses of the backend -/

/-- The member `status` of an `EventIngestResponse`. -/
def EventStatus.text : EventStatus → String
  | .accepted => "accepted"
  | .duplicate => "duplicate"

/-- A response carries an answer of `POST /api/v1/events`: its status code, and the `status` of
an `EventIngestResponse`.  The producer reads nothing else. -/
def Answer.sends (a : Answer) (response : Response) : Bool :=
  response.statusCode == a.statusCode &&
  match a with
  | .event _ result =>
      match response.json.bind bodyStatus with
      | some (.str status) => status == result.status.text
      | _ => false
  | _ => true

/-- How a call of `client.post` ends. -/
inductive PostEnding where
  /-- The request or its response is lost, or takes too long. -/
  | transportError
  /-- Something between the producer and the backend answers. -/
  | intermediary (response : Response)
  /-- The backend answers. -/
  | backend (response : Response)

/-- What the producer sees of it. -/
def PostEnding.result : PostEnding → PostResult
  | .transportError => .transportError
  | .intermediary response => .response response
  | .backend response => .response response

/-! ## The system -/

/-- The producer and the backend. -/
structure Deployment where
  simulator : Simulator
  world : World
  /-- The posts that have reached the backend, each with the number of its request. -/
  routes : List (Nat × Nat)
  /-- The posts that never will. -/
  lost : List Nat

/-- A step of the producer, of the network or of the backend. -/
inductive DeploymentLabel where
  /-- A step of the producer, except the end of a post. -/
  | producer (label : SimulatorLabel)
  /-- The post of a worker ends. -/
  | postEnds (worker : Nat) (ending : PostEnding) (draw : Rat)
  /-- A post reaches the backend. -/
  | deliver (post : Nat)
  | lose (post : Nat)
  /-- A step of the backend; an arrival is a call of another client. -/
  | backend (label : Label)

namespace Deployment

variable (s : Deployment)

/-- The start of the producer and of the backend. -/
def initial (config : SimulatorConfig) (hostname : String) (clock serverClock : Instant) :
    Deployment :=
  ⟨.initial config hostname clock, .initial serverClock, [], []⟩

/-- The backend sends a response to a post. -/
def responds (post : Nat) (response : Response) : Bool :=
  match s.simulator.posts[post]?.map EventBody.validate with
  | none => false
  | some none => post ∉ s.lost && response.statusCode == 422
  | some (some _) =>
      match (s.routes.lookup post).bind fun i => s.world.requests[i]? with
      | some ⟨_, .answered answer⟩ => answer.sends response
      | _ => false

/-- A post can end so. -/
def canEnd (post : Nat) : PostEnding → Bool
  | .transportError => true
  | .intermediary response => response.statusCode ∈ retryableStatusCodes
  | .backend response => s.responds post response

/-- The post a worker waits for. -/
def postOf (worker : Nat) : Option Nat := s.simulator.workers[worker]?.bind Worker.post?

/-- A post has reached the backend. -/
def arrived (post : Nat) : Bool := (s.routes.lookup post).isSome

/-- A step of the system. -/
def step (cat : Catalogue) (s : Deployment) : DeploymentLabel → Option Deployment
  | .producer (.postEnds ..) => none
  | .producer label => (s.simulator.step label).map fun simulator => { s with simulator }
  | .postEnds worker ending draw =>
      match s.postOf worker with
      | none => none
      | some post =>
          if s.canEnd post ending then
            (s.simulator.step (.postEnds worker ending.result draw)).map fun simulator =>
              { s with simulator }
          else none
  | .deliver post =>
      match s.simulator.posts[post]?.bind EventBody.validate with
      | none => none
      | some payload =>
          if s.arrived post || post ∈ s.lost then none
          else (s.world.step cat (.arrive (.event payload))).map fun world =>
            { s with world, routes := (post, s.world.requests.length) :: s.routes }
  | .lose post =>
      if post < s.simulator.posts.length ∧ s.arrived post = false then
        some { s with lost := post :: s.lost }
      else none
  | .backend label => (s.world.step cat label).map fun world => { s with world }

/-- `uuid4` gives the producer nothing twice. -/
def issuesAnew : DeploymentLabel → Bool
  | .producer label => s.simulator.issuesAnew label
  | _ => true

end Deployment

/-- The deployment as a transition system. -/
def deployment (cat : Catalogue) : System Deployment DeploymentLabel := ⟨Deployment.step cat⟩

/-- The states of the runs whose steps meet a condition. -/
def Deployment.ReachableWithin (cat : Catalogue) (config : SimulatorConfig)
    (P : Deployment → DeploymentLabel → Prop) (s : Deployment) : Prop :=
  ∃ hostname clock serverClock,
    (deployment cat).ReachesWithin P (.initial config hostname clock serverClock) s

/-! ## What a step can be -/

namespace Deployment

variable {cat : Catalogue} {s s' : Deployment} {P : Deployment → DeploymentLabel → Prop}
  {config : SimulatorConfig}

/-- The cases of a step. -/
inductive StepTo (cat : Catalogue) (s : Deployment) : DeploymentLabel → Deployment → Prop where
  | producer {label : SimulatorLabel} {simulator : Simulator} :
      (∀ worker result draw, label ≠ .postEnds worker result draw) →
      s.simulator.step label = some simulator → StepTo cat s (.producer label) { s with simulator }
  | postEnds {worker post : Nat} {ending : PostEnding} {draw : Rat} {simulator : Simulator} :
      s.postOf worker = some post → s.canEnd post ending = true →
      s.simulator.step (.postEnds worker ending.result draw) = some simulator →
      StepTo cat s (.postEnds worker ending draw) { s with simulator }
  | deliver {post : Nat} {body : EventBody} {payload : EventCreate} {world : World} :
      s.simulator.posts[post]? = some body → body.validate = some payload →
      s.arrived post = false → post ∉ s.lost →
      s.world.step cat (.arrive (.event payload)) = some world →
      StepTo cat s (.deliver post)
        { s with world, routes := (post, s.world.requests.length) :: s.routes }
  | lose {post : Nat} : s.arrived post = false →
      StepTo cat s (.lose post) { s with lost := post :: s.lost }
  | backend {label : Label} {world : World} : s.world.step cat label = some world →
      StepTo cat s (.backend label) { s with world }

/-- Every step is one of the cases. -/
theorem step_cases {l : DeploymentLabel} (h : s.step cat l = some s') : s.StepTo cat l s' := by
  cases l with
  | producer label =>
      have hlabel : ∀ worker result draw, label ≠ .postEnds worker result draw := by
        rintro worker result draw rfl
        cases h
      have hmap : (s.simulator.step label).map (fun simulator => { s with simulator }) =
          some s' := by
        cases label with
        | postEnds worker result draw => exact absurd rfl (hlabel worker result draw)
        | _ => exact h
      obtain ⟨x, hx, rfl⟩ := Option.map_eq_some_iff.mp hmap
      exact .producer hlabel hx
  | postEnds worker ending draw =>
      rw [step] at h
      split at h
      · cases h
      · next hpost =>
        split at h
        · next hcan =>
          obtain ⟨x, hx, rfl⟩ := Option.map_eq_some_iff.mp h
          exact .postEnds hpost hcan hx
        · cases h
  | deliver post =>
      rw [step] at h
      split at h
      · cases h
      · next hpayload =>
        obtain ⟨body, hbody, hvalid⟩ := Option.bind_eq_some_iff.mp hpayload
        split at h
        · cases h
        · next hfree =>
          rw [Bool.or_eq_true, not_or, decide_eq_true_eq] at hfree
          obtain ⟨x, hx, rfl⟩ := Option.map_eq_some_iff.mp h
          exact .deliver hbody hvalid (Bool.not_eq_true _ |>.mp hfree.1) hfree.2 hx
  | lose post =>
      rw [step] at h
      split at h
      · next hfree =>
        cases h
        exact .lose hfree.2
      · cases h
  | backend label =>
      obtain ⟨x, hx, rfl⟩ := Option.map_eq_some_iff.mp h
      exact .backend hx

/-! ## The two parts of a run -/

/-- What a step of the deployment is to the producer and to the backend. -/
theorem step_parts {l : DeploymentLabel} (h : s.step cat l = some s') :
    (s'.simulator = s.simulator ∨ ∃ x, s.simulator.step x = some s'.simulator) ∧
    (s'.world = s.world ∨ ∃ x, s.world.step cat x = some s'.world) := by
  cases step_cases h with
  | producer _ hx => exact ⟨Or.inr ⟨_, hx⟩, Or.inl rfl⟩
  | postEnds _ _ hx => exact ⟨Or.inr ⟨_, hx⟩, Or.inl rfl⟩
  | deliver _ _ _ _ hx => exact ⟨Or.inl rfl, Or.inr ⟨_, hx⟩⟩
  | lose => exact ⟨Or.inl rfl, Or.inl rfl⟩
  | backend hx => exact ⟨Or.inl rfl, Or.inr ⟨_, hx⟩⟩

/-- The producer of a deployment runs as a producer. -/
theorem ReachableWithin.simulator (h : s.ReachableWithin cat config P) :
    s.simulator.Reachable config := by
  obtain ⟨hostname, clock, serverClock, hr⟩ := h
  refine ⟨hostname, clock, hr.invariant
    (I := fun s => producer.Reaches (.initial config hostname clock) s.simulator) .refl ?_⟩
  intro t l t' _ ht _ hs
  rcases (step_parts hs).1 with he | ⟨x, hx⟩
  · exact he ▸ ht
  · exact ht.tail hx

/-- The ids of the producer differ in the runs in which `uuid4` gives nothing twice. -/
theorem ReachableWithin.distinct (h : s.ReachableWithin cat config P)
    (hP : ∀ t l, P t l → t.issuesAnew l = true) : s.simulator.issued.Nodup := by
  obtain ⟨hostname, clock, serverClock, hr⟩ := h
  refine hr.invariant (I := fun t => t.simulator.issued.Nodup) List.nodup_nil
    fun t l t' _ ht hl hs => ?_
  have hnew := hP t l hl
  cases step_cases hs with
  | producer _ hx => exact Simulator.nodup_issued_of_step ht hnew hx
  | postEnds _ _ hx => exact Simulator.nodup_issued_of_step ht rfl hx
  | deliver | lose | backend => exact ht

/-- The backend of a deployment runs as a backend. -/
theorem ReachableWithin.world (h : s.ReachableWithin cat config P) : s.world.Reachable cat := by
  obtain ⟨hostname, clock, serverClock, hr⟩ := h
  refine ⟨serverClock, hr.invariant
    (I := fun s => (server cat).Reaches (.initial serverClock) s.world) .refl ?_⟩
  intro t l t' _ ht _ hs
  rcases (step_parts hs).2 with he | ⟨x, hx⟩
  · exact he ▸ ht
  · exact ht.tail hx

end Deployment

end StorePulse
