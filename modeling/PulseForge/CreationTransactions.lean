-- Accounts, organizations and services are made by transactions that insert and let a
-- unique index decide. In every interleaving of them the store and the answers are those
-- of the same requests one at a time, in the order in which they end.
import PulseForge.Consistency
import PulseForge.Lib.Claims

open txn table interleave claims

namespace pulseforge

variable [Platform]

/-! ## The jobs -/

inductive Creation
  | register (payload : UserRegister)
  | create_organization (credentials : Option Bearer) (payload : OrganizationCreate)
  | create_service (credentials : Option Bearer) (payload : ServiceCreate)

def Creation.request : Creation → Request
  | .register payload => .auth (.register payload)
  | .create_organization credentials payload => .tenant credentials (.create_organization payload)
  | .create_service credentials payload => .tenant credentials (.create_service payload)

/-- A request with the draws and the clock of its process. -/
structure CreationJob where
  env : Env
  call : Creation

/-- What the unique indexes of the three tables hold once. -/
inductive UniqueKey
  | email (email : Text)
  | organization_slug (slug : Text)
  | service_slug (organization_id : UUID) (slug : Text)
  deriving DecidableEq

def EMAIL_REGISTERED : Failure :=
  ConflictError "Email is already registered" "EMAIL_ALREADY_REGISTERED"

def ORGANIZATION_SLUG_IN_USE : Failure :=
  HTTPException 409 "Organization slug is already in use"

/-- An error of a query is the answer of its request. -/
def refusing {α : Type} : Except Failure α → Except (Except Failure Body) α
  | .error failure => .error (.error failure)
  | .ok a => .ok a

/-- The driver refuses a row before the database sees it. -/
def driverCheck (storable : Bool) (user : User) : Except (Except Failure Body) User :=
  if storable then .ok user else .error (.error .DataError)

/-- The verdict of the rate limiter, which the request came with. -/
def limitCheck (e : Env) (user : User) : Except (Except Failure Body) User :=
  match e.retry_after with
  | some seconds => .error (.error (RateLimitError seconds))
  | none => .ok user

/-- The transactions carry along the user that they act as, a registration the new one. -/
abbrev CreationClaim := Claim Store UniqueKey User (Except Failure Body)

def register_claim (e : Env) (payload : UserRegister) : CreationClaim where
  key := .email (new_user e payload).email
  first _ := limitCheck e (new_user e payload)
  reads := [fun user _ => driverCheck (new_user e payload).storable user]
  taken s := s.users.any fun u => u.email = (new_user e payload).email
  write _ s := { s with users := s.users ++ [new_user e payload] }
  done _ := .ok (.user (new_user e payload).response)
  clash := .error EMAIL_REGISTERED

def create_organization_claim (e : Env) (credentials : Option Bearer) (payload : OrganizationCreate) :
    CreationClaim where
  key := .organization_slug payload.slug
  first s := refusing (get_current_user credentials e.now s)
  reads := [fun user _ => driverCheck (Platform.storable_text (strip payload.name)) user]
  taken s := s.organizations.any fun o => o.slug = payload.slug
  write user s := addAudit (organization_audit e payload user.id)
    (addMember (owner_membership e user.id)
      { s with organizations := s.organizations ++ [new_organization e payload user.id] })
  done user := .ok (.organization (new_organization e payload user.id).response)
  clash := .error ORGANIZATION_SLUG_IN_USE

def create_service_claim (e : Env) (credentials : Option Bearer) (payload : ServiceCreate) :
    CreationClaim where
  key := .service_slug payload.organization_id payload.slug
  first s := refusing (get_current_user credentials e.now s)
  reads :=
    [fun user s => refusing
        ((require_permission .SERVICE_CREATE payload.organization_id user.id s).map fun _ => user),
      fun user _ => driverCheck (new_service e payload).storable user]
  taken := slugTaken (new_service e payload)
  write user s := addAudit (service_audit e (new_service e payload) user.id)
    { s with services := s.services ++ [new_service e payload] }
  done _ := .ok (.service (new_service e payload))
  clash := .error SLUG_IN_USE

def CreationJob.claim (job : CreationJob) : CreationClaim :=
  match job.call with
  | .register payload => register_claim job.env payload
  | .create_organization credentials payload => create_organization_claim job.env credentials payload
  | .create_service credentials payload => create_service_claim job.env credentials payload

/-! ## One request at once -/

theorem handle_register (e : Env) (payload : UserRegister) (s : Store) :
    handle e (.auth (.register payload)) s = (register_claim e payload).serve s := by
  refine ends_runRequest (Q := fun r s' => (r, s') = (register_claim e payload).serve s) ?_
  unfold handler auth_handler answer register insertUser
  simp only [ends_bind, ends_check_rate_limit]
  cases hlimit : e.retry_after with
  | some seconds => simp [Claim.serve, Claim.check, register_claim, limitCheck, hlimit]
  | none =>
    have hfirst : limitCheck e (new_user e payload) = .ok (new_user e payload) := by
      unfold limitCheck
      rw [hlimit]
    simp only [ends_attempt, ends_flush]
    by_cases ht : (new_user e payload).storable = true
    · cases hs : s.users.any fun u => u.email = (new_user e payload).email with
      | true =>
        simp only [ht, if_true, isIntegrityError, Bool.false_eq_true, if_false, ends_bind,
          ends_rollback, ends_throw]
        simp [Claim.serve, Claim.check, register_claim, hfirst, readAll, driverCheck, ht, hs,
          EMAIL_REGISTERED]
      | false =>
        simp only [ht, if_true, Bool.false_eq_true, if_false, ends_bind, ends_commit, ends_pure]
        simp [Claim.serve, Claim.check, register_claim, hfirst, readAll, driverCheck, ht, hs]
    · simp only [ht, isIntegrityError, Bool.false_eq_true, if_false]
      simp [Claim.serve, Claim.check, register_claim, hfirst, readAll, driverCheck, ht]

theorem handle_create_organization (e : Env) (credentials : Option Bearer)
    (payload : OrganizationCreate) (s : Store) :
    handle e (.tenant credentials (.create_organization payload)) s =
      (create_organization_claim e credentials payload).serve s := by
  refine ends_runRequest
    (Q := fun r s' => (r, s') = (create_organization_claim e credentials payload).serve s) ?_
  unfold handler tenant_handler answer create_organization insertOrganization
  simp only [ends_bind, ends_ask]
  cases hu : get_current_user credentials e.now s with
  | error failure =>
    simp [Claim.serve, Claim.check, create_organization_claim, refusing, hu]
  | ok user =>
    simp only [ends_attempt, ends_flush]
    by_cases ht : Platform.storable_text (new_organization e payload user.id).name = true
    · cases hs : s.organizations.any fun o => o.slug = (new_organization e payload user.id).slug with
      | true =>
        simp only [ht, if_true, Except.map, isIntegrityError, Bool.false_eq_true, if_false, ends_bind,
          ends_rollback, ends_throw]
        have htaken : (create_organization_claim e credentials payload).taken s = true := hs
        simp only [new_organization] at ht
        simp only [Claim.serve, Claim.check, htaken, if_true]
        simp [create_organization_claim, refusing, hu, readAll, driverCheck, ht,
          ORGANIZATION_SLUG_IN_USE]
      | false =>
        simp only [ht, if_true, Except.map, Bool.false_eq_true, if_false, ends_bind, ends_write,
          ends_commit, ends_pure]
        have htaken : (create_organization_claim e credentials payload).taken s = false := hs
        simp only [new_organization] at ht
        simp only [Claim.serve, Claim.check, htaken, Bool.false_eq_true, if_false]
        simp [create_organization_claim, refusing, hu, readAll, driverCheck, ht]
    · simp only [ht, Except.map, isIntegrityError, Bool.false_eq_true, if_false]
      simp only [new_organization] at ht
      simp [Claim.serve, Claim.check, create_organization_claim, refusing, hu, readAll, driverCheck, ht]

theorem handle_create_service (e : Env) (credentials : Option Bearer) (payload : ServiceCreate)
    (s : Store) :
    handle e (.tenant credentials (.create_service payload)) s =
      (create_service_claim e credentials payload).serve s := by
  refine ends_runRequest
    (Q := fun r s' => (r, s') = (create_service_claim e credentials payload).serve s) ?_
  unfold handler tenant_handler answer create_service insertService
  simp only [ends_bind, ends_ask]
  cases hu : get_current_user credentials e.now s with
  | error failure => simp [Claim.serve, Claim.check, create_service_claim, refusing, hu]
  | ok user =>
    cases hp : require_permission .SERVICE_CREATE payload.organization_id user.id s with
    | error failure =>
      simp [Claim.serve, Claim.check, create_service_claim, refusing, hu, readAll, hp, Except.map]
    | ok actor =>
      simp only [ends_attempt, ends_flush]
      by_cases ht : (new_service e payload).storable = true
      · cases hs : slugTaken (new_service e payload) s with
        | true =>
          simp only [ht, if_true, isIntegrityError, Bool.false_eq_true, if_false, ends_bind,
            ends_rollback, ends_throw]
          simp [Claim.serve, Claim.check, create_service_claim, refusing, hu, readAll, driverCheck, hp,
            Except.map, ht, hs]
        | false =>
          simp only [ht, if_true, Bool.false_eq_true, if_false, ends_bind, ends_write,
            ends_commit, ends_pure]
          simp [Claim.serve, Claim.check, create_service_claim, refusing, hu, readAll, driverCheck, hp,
            Except.map, ht, hs]
      · simp only [ht, isIntegrityError, Bool.false_eq_true, if_false]
        simp [Claim.serve, Claim.check, create_service_claim, refusing, hu, readAll, driverCheck, hp,
          Except.map, ht]

/-- The request at once is the transaction at once. -/
theorem handle_creation (job : CreationJob) (s : Store) :
    handle job.env job.call.request s = job.claim.serve s := by
  unfold CreationJob.claim
  cases job.call with
  | register payload => exact handle_register job.env payload s
  | create_organization credentials payload =>
    exact handle_create_organization job.env credentials payload s
  | create_service credentials payload => exact handle_create_service job.env credentials payload s

/-! ## The writes are compatible -/

/-- The second store has the rows of the first that a creation reads, and more. -/
structure Grows (s s' : Store) : Prop where
  users : s.users <+: s'.users
  refresh_tokens : s'.refresh_tokens = s.refresh_tokens
  organization_members : s.organization_members <+: s'.organization_members

omit [Platform] in
theorem find?_prefix {α : Type} {p : α → Bool} {l l' : List α} {a : α} (h : l <+: l')
    (ha : l.find? p = some a) : l'.find? p = some a := by
  obtain ⟨more, rfl⟩ := h
  rw [List.find?_append, ha]
  rfl

omit [Platform] in
theorem Grows.current_user {s s' : Store} (h : Grows s s') {credentials : Option Bearer} {now : Int}
    {user : User} (hu : get_current_user credentials now s = .ok user) :
    get_current_user credentials now s' = .ok user := by
  have hsession : ∀ id user_id, sessionOpen s' id user_id now = sessionOpen s id user_id now := by
    intro id user_id
    unfold sessionOpen findSession
    rw [h.refresh_tokens]
  unfold get_current_user at hu ⊢
  cases credentials with
  | none => cases hu
  | some bearer =>
    cases hjwt : jwt_decode now bearer with
    | none => simp [hjwt] at hu
    | some token =>
      simp only [hjwt] at hu ⊢
      cases hfind : findUser s token.sub with
      | none => simp [hfind] at hu
      | some found =>
        have hfound : findUser s' token.sub = some found := find?_prefix h.users hfind
        simp only [hfind] at hu
        simp only [hfound, hsession]
        exact hu

omit [Platform] in
theorem Grows.permission {s s' : Store} (h : Grows s s') {permission : Permission}
    {organization_id user_id : UUID} {actor : OrganizationMember}
    (hp : require_permission permission organization_id user_id s = .ok actor) :
    require_permission permission organization_id user_id s' = .ok actor := by
  unfold require_permission get_membership_or_404 at hp ⊢
  cases hfind : findMembership s organization_id user_id with
  | none => simp [hfind] at hp
  | some membership =>
    have hfound : findMembership s' organization_id user_id = some membership :=
      find?_prefix h.organization_members hfind
    simp only [hfind] at hp
    simp only [hfound]
    exact hp

theorem creation_grows (job : CreationJob) (user : User) (s : Store) :
    Grows s (job.claim.write user s) := by
  unfold CreationJob.claim
  cases job.call with
  | register payload =>
    exact ⟨List.prefix_append _ _, rfl, List.prefix_refl _⟩
  | create_organization credentials payload =>
    exact ⟨List.prefix_refl _, rfl, List.prefix_append _ _⟩
  | create_service credentials payload =>
    exact ⟨List.prefix_refl _, rfl, List.prefix_refl _⟩

omit [Platform] in
theorem refusing_ok {α : Type} {x : Except Failure α} {a : α} (h : refusing x = .ok a) : x = .ok a := by
  cases x with
  | error failure => cases h
  | ok b =>
    cases h
    rfl

/-- The first read of a creation goes through again. -/
theorem first_again (job : CreationJob) {s s' : Store} (h : Grows s s') {user : User}
    (hu : job.claim.first s = .ok user) : job.claim.first s' = .ok user := by
  unfold CreationJob.claim at hu ⊢
  cases hcall : job.call with
  | register payload =>
    rw [hcall] at hu
    exact hu
  | create_organization credentials payload =>
    rw [hcall] at hu
    show refusing _ = _
    rw [h.current_user (refusing_ok hu)]
    rfl
  | create_service credentials payload =>
    rw [hcall] at hu
    show refusing _ = _
    rw [h.current_user (refusing_ok hu)]
    rfl

theorem read_again (job : CreationJob) {s s' : Store} (h : Grows s s') {user user' : User}
    {read : User → Store → Except (Except Failure Body) User} (hread : read ∈ job.claim.reads)
    (hu : read user s = .ok user') : read user s' = .ok user' := by
  unfold CreationJob.claim at hread
  cases hcall : job.call with
  | register payload =>
    rw [hcall] at hread
    obtain rfl := List.mem_singleton.mp hread
    exact hu
  | create_organization credentials payload =>
    rw [hcall] at hread
    obtain rfl := List.mem_singleton.mp hread
    exact hu
  | create_service credentials payload =>
    rw [hcall] at hread
    rcases List.mem_pair.mp hread with rfl | rfl
    · simp only at hu ⊢
      cases hp : require_permission .SERVICE_CREATE payload.organization_id user.id s with
      | error failure =>
        rw [hp] at hu
        cases hu
      | ok actor =>
        rw [hp] at hu
        rw [h.permission hp]
        exact hu
    · exact hu

theorem taken_again {job other : CreationJob} (hid : job.env.uuid 0 ≠ other.env.uuid 0) (user : User)
    (s : Store) : job.claim.taken (other.claim.write user s) =
      (job.claim.taken s || decide (job.claim.key = other.claim.key)) := by
  unfold CreationJob.claim
  cases job.call with
  | register payload =>
    cases other.call with
    | register payload' =>
      simp [register_claim, List.any_append, eq_comm (a := (new_user other.env payload').email)]
    | create_organization credentials' payload' =>
      simp [register_claim, create_organization_claim, addAudit, addMember]
    | create_service credentials' payload' =>
      simp [register_claim, create_service_claim, addAudit]
  | create_organization credentials payload =>
    cases other.call with
    | register payload' => simp [register_claim, create_organization_claim]
    | create_organization credentials' payload' =>
      simp [create_organization_claim, addAudit, addMember, new_organization,
        eq_comm (a := payload'.slug)]
    | create_service credentials' payload' =>
      simp [create_organization_claim, create_service_claim, addAudit]
  | create_service credentials payload =>
    cases other.call with
    | register payload' => simp [register_claim, create_service_claim, slugTaken]
    | create_organization credentials' payload' =>
      simp [create_organization_claim, create_service_claim, addAudit, addMember, slugTaken]
    | create_service credentials' payload' =>
      simp [create_service_claim, addAudit, slugTaken, new_service, hid.symm,
        eq_comm (a := payload'.organization_id), eq_comm (a := payload'.slug)]

/-- Creations that draw different ids are compatible. -/
theorem creations_compatible {ι : Type} {jobs : ι → CreationJob}
    (hfresh : ∀ i j, i ≠ j → (jobs i).env.uuid 0 ≠ (jobs j).env.uuid 0) :
    Compatible fun i => (jobs i).claim where
  first i j _ b s h := first_again (jobs i) (creation_grows (jobs j) b s) h
  reads i j _ hread _ _ b s h := read_again (jobs i) (creation_grows (jobs j) b s) hread h
  taken i j b s hij := taken_again (hfresh i j hij) b s

/-! ## The answers tell the winner -/

def isOk : Except Failure Body → Bool
  | .ok _ => true
  | .error _ => false

omit [Platform] in
theorem current_user_status {credentials : Option Bearer} {now : Int} {s : Store} {failure : Failure}
    (h : get_current_user credentials now s = .error failure) :
    (error_response failure).status_code = 401 := by
  unfold get_current_user at h
  repeat' split at h
  all_goals first
    | cases h; rfl
    | cases h

omit [Platform] in
theorem permission_status {permission : Permission} {organization_id user_id : UUID} {s : Store}
    {failure : Failure} (h : require_permission permission organization_id user_id s = .error failure) :
    (error_response failure).status_code = 404 ∨ (error_response failure).status_code = 403 := by
  unfold require_permission get_membership_or_404 at h
  cases hfind : findMembership s organization_id user_id with
  | none =>
    rw [hfind] at h
    cases h
    exact Or.inl rfl
  | some membership =>
    simp only [hfind] at h
    split at h
    · cases h
    · cases h
      exact Or.inr rfl

/-- A refusal is not a conflict. -/
def Refuses (r : Except Failure Body) : Prop :=
  ∃ failure, r = .error failure ∧ (error_response failure).status_code ≠ 409

omit [Platform] in
theorem driverCheck_refuses {storable : Bool} {user : User} {r : Except Failure Body}
    (h : driverCheck storable user = .error r) : Refuses r := by
  unfold driverCheck at h
  split at h
  · cases h
  · cases h
    exact ⟨_, rfl, by decide⟩

omit [Platform] in
theorem refusing_refuses {α : Type} {x : Except Failure α} {r : Except Failure Body}
    (hstatus : ∀ failure, x = .error failure → (error_response failure).status_code ≠ 409)
    (h : refusing x = .error r) : Refuses r := by
  cases x with
  | error failure =>
    cases h
    exact ⟨failure, rfl, hstatus failure rfl⟩
  | ok a => cases h

theorem first_refuses (job : CreationJob) {s : Store} {r : Except Failure Body}
    (h : job.claim.first s = .error r) : Refuses r := by
  have huser : ∀ credentials, refusing (get_current_user credentials job.env.now s) = .error r →
      Refuses r := fun credentials => refusing_refuses fun failure hfailure => by
    rw [current_user_status hfailure]
    decide
  unfold CreationJob.claim at h
  cases hcall : job.call with
  | register payload =>
    rw [hcall] at h
    simp only [register_claim, limitCheck] at h
    split at h
    · cases h
      exact ⟨_, rfl, by simp [RateLimitError, error_response]⟩
    · cases h
  | create_organization credentials payload =>
    rw [hcall] at h
    exact huser credentials h
  | create_service credentials payload =>
    rw [hcall] at h
    exact huser credentials h

theorem read_refuses (job : CreationJob) {s : Store} {user : User} {r : Except Failure Body}
    {read : User → Store → Except (Except Failure Body) User} (hread : read ∈ job.claim.reads)
    (h : read user s = .error r) : Refuses r := by
  unfold CreationJob.claim at hread
  cases hcall : job.call with
  | register payload =>
    rw [hcall] at hread
    obtain rfl := List.mem_singleton.mp hread
    exact driverCheck_refuses h
  | create_organization credentials payload =>
    rw [hcall] at hread
    obtain rfl := List.mem_singleton.mp hread
    exact driverCheck_refuses h
  | create_service credentials payload =>
    rw [hcall] at hread
    rcases List.mem_pair.mp hread with rfl | rfl
    · refine refusing_refuses (fun failure hfailure => ?_) h
      cases hp : require_permission .SERVICE_CREATE payload.organization_id user.id s with
      | error denied =>
        rw [hp] at hfailure
        cases hfailure
        rcases permission_status hp with hstatus | hstatus <;> rw [hstatus] <;> decide
      | ok actor =>
        rw [hp] at hfailure
        cases hfailure
    · exact driverCheck_refuses h

theorem creations_tell {ι : Type} (jobs : ι → CreationJob) :
    claims.Tells (fun i => (jobs i).claim) isOk where
  done i user := by
    simp only [CreationJob.claim]
    cases (jobs i).call <;> rfl
  clash i := by
    simp only [CreationJob.claim]
    cases (jobs i).call <;> rfl
  refused i s r h := by
    obtain ⟨failure, rfl, hstatus⟩ := claims.check_refuses (fun r => first_refuses (jobs i))
      (fun read hread user r => read_refuses (jobs i) hread) h
    refine ⟨rfl, fun hclash => hstatus ?_⟩
    have hconflict : ∀ failure, (jobs i).claim.clash = .error failure →
        (error_response failure).status_code = 409 := by
      intro failure hfailure
      simp only [CreationJob.claim] at hfailure
      cases hcall : (jobs i).call <;> rw [hcall] at hfailure <;> cases hfailure <;> rfl
    exact hconflict failure hclash.symm

/-! ## Every interleaving -/

section
variable {ι : Type} [Fintype ι] [DecidableEq ι]

def creation_begin (s₀ : Store) : State ι Store (claims.Stage Store User (Except Failure Body)) :=
  claims.begin s₀

def creation_turn (jobs : ι → CreationJob) :
    State ι Store (claims.Stage Store User (Except Failure Body)) → ι →
      State ι Store (claims.Stage Store User (Except Failure Body)) :=
  claims.turn fun i => (jobs i).claim

/-- The creations in the order in which they ended, the newest first. -/
def creationOrder (jobs : ι → CreationJob) (s₀ : Store) (turns : List ι) : List ι :=
  endOrder (fun i => (jobs i).claim) s₀ turns

/-- Creations that take turns statement by statement end as the same requests one at a
time, in the order in which they ended, and they can all come to their end. -/
theorem creations_are_one_at_a_time {jobs : ι → CreationJob}
    (hfresh : ∀ i j, i ≠ j → (jobs i).env.uuid 0 ≠ (jobs j).env.uuid 0) (s₀ : Store) (turns : List ι) :
    let serve := fun i s => handle (jobs i).env (jobs i).call.request s
    let order := creationOrder jobs s₀ turns
    let g := run.after (creation_turn jobs) (creation_begin s₀) turns
    order.Nodup ∧ (∀ i, i ∈ order ↔ (g.locals i).reply.isSome = true) ∧
      g.shared = oneAtATime serve s₀ order ∧ (∀ i, (g.locals i).reply = answers serve s₀ order i) ∧
      ∃ more, ∀ i, ((run.after (creation_turn jobs) (creation_begin s₀) (more ++ turns)).locals
        i).reply.isSome = true := by
  have hserve : (fun i s => handle (jobs i).env (jobs i).call.request s) =
      fun i => ((jobs i).claim).serve :=
    funext fun i => funext fun s => handle_creation (jobs i) s
  have hserial := serial_run (creations_compatible hfresh) s₀ turns
  obtain ⟨more, hmore⟩ := can_end (fun i => (jobs i).claim)
    (run.after (creation_turn jobs) (creation_begin s₀) turns)
  simp only [hserve]
  refine ⟨hserial.once, hserial.ended, hserial.shared, hserial.replies, more, fun i => ?_⟩
  rw [run.after_append]
  exact hmore i

/-- Two clients that register the same address. -/
def twins (first : Bool) : CreationJob :=
  ⟨if first then sampleEnv 0 else sampleEnv 1, .register sampleUser⟩

omit [Platform] in
theorem twins_fresh (i j : Bool) (h : i ≠ j) : (twins i).env.uuid 0 ≠ (twins j).env.uuid 0 := by
  cases i <;> cases j <;> first | exact absurd rfl h | decide

/-- The second one comes to its insert while the first one holds the address. -/
def twinTurns : List Bool := [false, true, false, true, false, false, true, true]

omit [Platform] in
theorem twins_end_one_at_a_time :
    (run.after (@creation_turn samplePlatform _ _ _ twins) (creation_begin Store.empty) twinTurns).shared =
      oneAtATime (fun i s => @handle samplePlatform (twins i).env (twins i).call.request s) Store.empty
        [false, true] :=
  (@creations_are_one_at_a_time samplePlatform _ _ _ _ twins_fresh Store.empty twinTurns).2.2.1

/-- Of the creations of one key only one is granted, and only if the key was free. A
conflict is answered only where the key was taken before or another one is granted. -/
theorem one_creation_of_a_key_is_granted {jobs : ι → CreationJob}
    (hfresh : ∀ i j, i ≠ j → (jobs i).env.uuid 0 ≠ (jobs j).env.uuid 0) (s₀ : Store) (turns : List ι) :
    let reply := fun i => ((run.after (creation_turn jobs) (creation_begin s₀) turns).locals i).reply
    (∀ i body, reply i = some (.ok body) → (jobs i).claim.taken s₀ = false ∧
      ∀ j body', j ≠ i → (jobs i).claim.key = (jobs j).claim.key → reply j ≠ some (.ok body')) ∧
    ∀ i, reply i = some (jobs i).claim.clash → (jobs i).claim.taken s₀ = true ∨
      ∃ j body, j ≠ i ∧ (jobs i).claim.key = (jobs j).claim.key ∧ reply j = some (.ok body) := by
  have hserial := serial_run (creations_compatible hfresh) s₀ turns
  have hfair := fair (creations_compatible hfresh) (creations_tell jobs) s₀ hserial.once
  have hwon : ∀ i, Won (fun i => (jobs i).claim) isOk s₀ (creationOrder jobs s₀ turns) i ↔
      ∃ body, ((run.after (creation_turn jobs) (creation_begin s₀) turns).locals i).reply =
        some (.ok body) := by
    intro i
    unfold Won
    show (∃ r, answers _ s₀ (endOrder (fun i => (jobs i).claim) s₀ turns) i = some r ∧ _) ↔ _
    rw [← hserial.replies i]
    constructor
    · rintro ⟨r | body, hr, hok⟩
      · cases hok
      · exact ⟨body, hr⟩
    · rintro ⟨body, hbody⟩
      exact ⟨.ok body, hbody, rfl⟩
  refine ⟨fun i body hbody => ?_, fun i hclash => ?_⟩
  · obtain ⟨hfree, hsole⟩ := hfair.winner i ((hwon i).mpr ⟨body, hbody⟩)
    exact ⟨hfree, fun j body' hj hkey hother => hsole j hj hkey ((hwon j).mpr ⟨body', hother⟩)⟩
  · refine (hfair.loser i ?_).imp_right ?_
    · exact (hserial.replies i).symm.trans hclash
    · rintro ⟨j, hj, hkey, hother⟩
      obtain ⟨body, hbody⟩ := (hwon j).mp hother
      exact ⟨j, body, hj, hkey, hbody⟩

omit [Platform] in
theorem one_twin_is_granted :
    ∃ j body, j ≠ false ∧ ((run.after (@creation_turn samplePlatform _ _ _ twins)
      (creation_begin Store.empty) twinTurns).locals j).reply = some (.ok body) := by
  rcases (@one_creation_of_a_key_is_granted samplePlatform _ _ _ _ twins_fresh Store.empty
    twinTurns).2 false rfl with htaken | ⟨j, body, hj, _, hbody⟩
  · cases htaken
  · exact ⟨j, body, hj, hbody⟩

end

end pulseforge
