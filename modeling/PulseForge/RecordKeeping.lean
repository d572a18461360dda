-- What a row has once recorded stays recorded: from any store of a run to any later one,
-- audit entries, accounts and sessions stay where they are, the columns that say what a row
-- is stay as they are, and revocations, uses and transitions are never taken back.
import PulseForge.Lib.History
import PulseForge.Registry
import PulseForge.ResetTokens
import PulseForge.ResolvedFinal

open txn table

namespace pulseforge

/-! ## How rows move -/

/-- What an account is; a password change writes the other columns. -/
def User.identity (u : User) : UUID × Text × Text × Bool × Int :=
  (u.id, u.email, u.full_name, u.is_active, u.created_at)

def RefreshToken.identity (r : RefreshToken) :
    UUID × UUID × Text × Int × Option Text × Option Text × Int :=
  (r.id, r.user_id, r.token_hash, r.expires_at, r.ip_address, r.user_agent, r.created_at)

structure RefreshToken.Forward (r r' : RefreshToken) : Prop where
  identity : r'.identity = r.identity
  revoked_at : Stays r.revoked_at r'.revoked_at

def PasswordResetToken.identity (r : PasswordResetToken) : UUID × UUID × Text × Int × Int :=
  (r.id, r.user_id, r.token_hash, r.expires_at, r.created_at)

structure PasswordResetToken.Forward (r r' : PasswordResetToken) : Prop where
  identity : r'.identity = r.identity
  used_at : Stays r.used_at r'.used_at

def OrganizationMember.identity (m : OrganizationMember) : UUID × UUID × UUID × Int :=
  (m.id, m.organization_id, m.user_id, m.joined_at)

def Service.identity (v : Service) : UUID × UUID × Int := (v.id, v.organization_id, v.created_at)

def ApiKey.identity (k : ApiKey) :
    UUID × UUID × UUID × Text × Text × Text × List ApiKeyScope × Option Int × Int :=
  (k.id, k.organization_id, k.service_id, k.name, k.key_hash, k.display_prefix, k.scopes,
    k.expires_at, k.created_at)

structure ApiKey.Forward (k k' : ApiKey) : Prop where
  identity : k'.identity = k.identity
  revoked_at : Stays k.revoked_at k'.revoked_at
  used : k.last_used_at.isSome = true → k'.last_used_at.isSome = true

def Incident.identity (i : Incident) :
    UUID × UUID × UUID × Text × Option Text × DateTime × Text × Int :=
  (i.id, i.organization_id, i.service_id, i.title, i.description, i.detected_at, i.fingerprint,
    i.created_at)

structure Incident.Forward (i i' : Incident) : Prop where
  identity : i'.identity = i.identity
  status : i.status.rank ≤ i'.status.rank
  severity : i'.severity = i.severity ∨ i'.severity = .SEV_1
  acknowledged_at : Stays i.acknowledged_at i'.acknowledged_at
  resolved_at : Stays i.resolved_at i'.resolved_at
  assigned_to : Stays i.assigned_to i'.assigned_to

theorem RefreshToken.Forward.refl (r : RefreshToken) : r.Forward r := ⟨rfl, .refl _⟩

theorem RefreshToken.Forward.trans (a b c : RefreshToken) (h : a.Forward b) (h' : b.Forward c) :
    a.Forward c :=
  ⟨h'.identity.trans h.identity, h.revoked_at.trans h'.revoked_at⟩

theorem PasswordResetToken.Forward.refl (r : PasswordResetToken) : r.Forward r := ⟨rfl, .refl _⟩

theorem PasswordResetToken.Forward.trans (a b c : PasswordResetToken) (h : a.Forward b)
    (h' : b.Forward c) : a.Forward c :=
  ⟨h'.identity.trans h.identity, h.used_at.trans h'.used_at⟩

theorem ApiKey.Forward.refl (k : ApiKey) : k.Forward k := ⟨rfl, .refl _, fun h => h⟩

theorem ApiKey.Forward.trans (a b c : ApiKey) (h : a.Forward b) (h' : b.Forward c) : a.Forward c :=
  ⟨h'.identity.trans h.identity, h.revoked_at.trans h'.revoked_at, fun hused => h'.used (h.used hused)⟩

theorem Incident.Forward.refl (i : Incident) : i.Forward i :=
  ⟨rfl, Nat.le_refl _, Or.inl rfl, .refl _, .refl _, .refl _⟩

theorem Incident.Forward.trans (a b c : Incident) (h : a.Forward b) (h' : b.Forward c) :
    a.Forward c where
  identity := h'.identity.trans h.identity
  status := h.status.trans h'.status
  severity := by
    rcases h'.severity with heq | hraised
    · rw [heq]
      exact h.severity
    · exact Or.inr hraised
  acknowledged_at := h.acknowledged_at.trans h'.acknowledged_at
  resolved_at := h.resolved_at.trans h'.resolved_at
  assigned_to := h.assigned_to.trans h'.assigned_to

/-- The second store is the first one moved forward. The tables that delete nothing keep
their rows in their places; in the others a row has a new id or was there before. -/
structure Store.Forward (new : UUID → Prop) (s s' : Store) : Prop where
  users : Grown (Same User.identity) s.users s'.users
  refresh_tokens : Grown RefreshToken.Forward s.refresh_tokens s'.refresh_tokens
  password_reset_tokens :
    Grown PasswordResetToken.Forward s.password_reset_tokens s'.password_reset_tokens
  organizations : s.organizations <+: s'.organizations
  audit_logs : s.audit_logs <+: s'.audit_logs
  organization_members : Moved OrganizationMember.id (Same OrganizationMember.identity) new
    s.organization_members s'.organization_members
  services : Moved Service.id (Same Service.identity) new s.services s'.services
  api_keys : Moved ApiKey.id ApiKey.Forward new s.api_keys s'.api_keys
  events : Moved Event.id Eq new s.events s'.events
  incidents : Moved Incident.id Incident.Forward new s.incidents s'.incidents

section
variable {new : UUID → Prop} {s s' s'' : Store}

theorem Store.Forward.refl (new : UUID → Prop) (s : Store) : Store.Forward new s s where
  users := .refl (Same.refl _) _
  refresh_tokens := .refl RefreshToken.Forward.refl _
  password_reset_tokens := .refl PasswordResetToken.Forward.refl _
  organizations := List.prefix_refl _
  audit_logs := List.prefix_refl _
  organization_members := .refl (Same.refl _) _
  services := .refl (Same.refl _) _
  api_keys := .refl ApiKey.Forward.refl _
  events := .refl (fun _ => rfl) _
  incidents := .refl Incident.Forward.refl _

theorem Store.Forward.trans (h : Store.Forward new s s') (h' : Store.Forward new s' s'') :
    Store.Forward new s s'' where
  users := h.users.trans Same.trans h'.users
  refresh_tokens := h.refresh_tokens.trans RefreshToken.Forward.trans h'.refresh_tokens
  password_reset_tokens :=
    h.password_reset_tokens.trans PasswordResetToken.Forward.trans h'.password_reset_tokens
  organizations := h.organizations.trans h'.organizations
  audit_logs := h.audit_logs.trans h'.audit_logs
  organization_members := h.organization_members.trans Same.trans h'.organization_members
  services := h.services.trans Same.trans h'.services
  api_keys := h.api_keys.trans ApiKey.Forward.trans h'.api_keys
  events := h.events.trans (fun _ _ _ hab hbc => hab.trans hbc) h'.events
  incidents := h.incidents.trans Incident.Forward.trans h'.incidents

theorem Store.Forward.mono {new' : UUID → Prop} (h : Store.Forward new s s')
    (hnew : ∀ id, new id → new' id) : Store.Forward new' s s' :=
  { h with
    organization_members := h.organization_members.mono hnew
    services := h.services.mono hnew
    api_keys := h.api_keys.mono hnew
    events := h.events.mono hnew
    incidents := h.incidents.mono hnew }

end

/-! ## The requests under /auth -/

variable [Platform]

section
variable {e : Env} {s s' : Store} {new : UUID → Prop}

omit [Platform] in
/-- A revocation of sessions that are open. -/
theorem sessions_revoked {p : RefreshToken → Bool} {f : RefreshToken → RefreshToken}
    (hf : ∀ r, (f r).identity = r.identity)
    (hp : ∀ r ∈ s.refresh_tokens, p r = true → r.revoked_at = none) :
    Grown RefreshToken.Forward s.refresh_tokens (updateWhere p f s.refresh_tokens) :=
  .update RefreshToken.Forward.refl fun r hr hmatch => ⟨hf r, stays_none (hp r hr hmatch) _⟩

omit [Platform] in
theorem user_sessions_revoked (user_id : UUID) (now : Int) :
    Grown RefreshToken.Forward s.refresh_tokens (revoke_user_sessions user_id now s).refresh_tokens :=
  sessions_revoked (fun _ => rfl) fun _ _ hmatch =>
    Option.isNone_iff_eq_none.mp (Bool.and_eq_true_iff.mp hmatch).2

omit [Platform] in
theorem session_row_revoked (hids : UniqueOn RefreshToken.id s.refresh_tokens) {row : RefreshToken}
    (hrow : row ∈ s.refresh_tokens) (hopen : row.revoked_at = none) {f : RefreshToken → RefreshToken}
    (hf : ∀ r, (f r).identity = r.identity) :
    Grown RefreshToken.Forward s.refresh_tokens (updateSession row.id f s).refresh_tokens :=
  sessions_revoked hf fun r hr hmatch => by
    rw [hids.eq hr hrow (of_decide_eq_true hmatch)]
    exact hopen

omit [Platform] in
theorem password_set (user_id : UUID) (password_hash : Text) (now : Int) :
    Grown (Same User.identity) s.users (setPassword user_id password_hash now s).users :=
  .update (Same.refl _) fun _ _ _ => rfl

theorem auth_forward {r : AuthRequest} {reply : Except Failure Body}
    (hsessions : UniqueOn RefreshToken.id s.refresh_tokens)
    (hresets : UniqueOn PasswordResetToken.id s.password_reset_tokens)
    (h : AuthOutcome e s r reply s') : Store.Forward new s s' := by
  have hsame := Store.Forward.refl new s
  cases h with
  | registered payload =>
    exact { hsame with users := hsame.users.insert _ }
  | login_failed payload error row =>
    exact { hsame with audit_logs := List.prefix_append _ _ }
  | signed_in payload user =>
    exact { hsame with refresh_tokens := hsame.refresh_tokens.insert _ }
  | refresh_replayed raw error row =>
    exact { hsame with refresh_tokens := user_sessions_revoked _ _ }
  | refresh_ended raw error row user _ hr hopen =>
    exact { hsame with
      refresh_tokens := session_row_revoked hsessions (find?_mem hr).1 hopen fun _ => rfl }
  | refreshed raw row user _ hr hopen =>
    have hrotated : Grown RefreshToken.Forward s.refresh_tokens
        (rotateSessionRow row.id (e.clock 1) s).refresh_tokens :=
      session_row_revoked hsessions (find?_mem hr).1 hopen fun _ => rfl
    exact { hsame with refresh_tokens := hrotated.insert _ }
  | logged_out raw row hr hopen =>
    exact { hsame with
      refresh_tokens := session_row_revoked hsessions (find?_mem hr).1 hopen fun _ => rfl }
  | revoked credentials session_id user row _ hr hopen =>
    exact { hsame with
      refresh_tokens := session_row_revoked hsessions (session_of_some hr).1 hopen fun _ => rfl }
  | logged_out_all credentials user =>
    exact { hsame with refresh_tokens := user_sessions_revoked _ _ }
  | password_changed credentials payload user =>
    exact { hsame with
      users := password_set _ _ _
      refresh_tokens := user_sessions_revoked _ _
      audit_logs := List.prefix_append _ _ }
  | forgot email user response =>
    refine { hsame with password_reset_tokens := ?_ }
    refine Grown.insert (.update PasswordResetToken.Forward.refl fun r _ hmatch => ?_) _
    exact ⟨rfl, stays_none (Option.isNone_iff_eq_none.mp (Bool.and_eq_true_iff.mp hmatch).2) _⟩
  | password_reset payload row hr =>
    obtain ⟨hrow, hunused⟩ := usable_of_ok hr
    refine { hsame with
      users := password_set _ _ _
      refresh_tokens := user_sessions_revoked _ _
      password_reset_tokens := .update PasswordResetToken.Forward.refl fun r hmem hmatch => ⟨rfl, ?_⟩
      audit_logs := List.prefix_append _ _ }
    rw [hresets.eq hmem hrow (of_decide_eq_true hmatch)]
    exact stays_none hunused _
  | _ => exact hsame

end

/-! ## The other requests -/

/-- What the handlers of incidents rely on: an open incident is of nobody, and only a
resolved one has a time of its resolution. -/
structure Regular (s : Store) : Prop where
  reset_ids : UniqueOn PasswordResetToken.id s.password_reset_tokens
  unassigned : ∀ i ∈ s.incidents, i.status = .OPEN → i.acknowledged_at = none ∧ i.assigned_to = none
  unresolved : ∀ i ∈ s.incidents, i.status ≠ .RESOLVED → i.resolved_at = none

/-- The ids that a request draws. -/
def Env.Draws (e : Env) (id : UUID) : Prop := ∃ k, id = e.uuid k

section
variable {e : Env} {s s' : Store}

omit [Platform] in
theorem keys_revoked (hids : UniqueOn ApiKey.id s.api_keys) {row : ApiKey} (hrow : row ∈ s.api_keys)
    (hlive : row.revoked_at = none) (new : UUID → Prop) (now : Int) :
    Moved ApiKey.id ApiKey.Forward new s.api_keys (revokeKey row.id now s).api_keys := by
  refine .update ApiKey.Forward.refl fun k hk hmatch => ⟨rfl, rfl, ?_, fun h => h⟩
  rw [hids.eq hk hrow (of_decide_eq_true hmatch)]
  exact stays_none hlive _

omit [Platform] in
theorem key_touched (key_id : UUID) (now : Int) (new : UUID → Prop) :
    Moved ApiKey.id ApiKey.Forward new s.api_keys (touchApiKey key_id now s).api_keys :=
  .update ApiKey.Forward.refl fun _ _ _ => ⟨rfl, rfl, .refl _, fun _ => rfl⟩

omit [Platform] in
theorem incident_moved (hids : UniqueOn Incident.id s.incidents) {row : Incident}
    (hrow : row ∈ s.incidents) {f : Incident → Incident} (hf : row.Forward (f row))
    (new : UUID → Prop) :
    Moved Incident.id Incident.Forward new s.incidents (updateIncident row.id f s).incidents := by
  refine .update Incident.Forward.refl fun i hi hmatch => ?_
  rw [hids.eq hi hrow (of_decide_eq_true hmatch)]
  exact ⟨congrArg Prod.fst hf.identity, hf⟩

omit [Platform] in
theorem acknowledged_forward {i : Incident} (hopen : i.status = .OPEN)
    (hnone : i.acknowledged_at = none ∧ i.assigned_to = none) (user_id : UUID) (now updated_at : Int) :
    i.Forward (acknowledged user_id now updated_at i) where
  identity := rfl
  status := by
    rw [hopen]
    exact Nat.zero_le _
  severity := Or.inl rfl
  acknowledged_at := stays_none hnone.1 _
  resolved_at := .refl _
  assigned_to := stays_none hnone.2 _

omit [Platform] in
theorem resolved_forward {i : Incident} (hnone : i.resolved_at = none) (user_id : UUID)
    (now updated_at : Int) :
    i.Forward (resolved user_id now updated_at i.assigned_to.isNone i) where
  identity := rfl
  status := by
    show i.status.rank ≤ 2
    cases i.status <;> decide
  severity := Or.inl rfl
  acknowledged_at := .refl _
  resolved_at := stays_none hnone _
  assigned_to := by
    intro u hu
    simp [resolved, hu]

theorem changed_service_identity {now : Int} {payload : ServiceUpdate} {name : Text}
    {service changed : Service} (h : changed_service now payload name service = .ok changed) :
    changed.identity = service.identity := by
  unfold changed_service at h
  simp only at h
  split at h
  · obtain ⟨slug, _, h⟩ := bind_ok h
    obtain ⟨environment, _, h⟩ := bind_ok h
    obtain ⟨status, _, h⟩ := bind_ok h
    obtain rfl := Except.ok.inj h
    split <;> rfl
  · cases h

theorem tenant_forward (hc : Consistent s) (hkeys : UniqueOn ApiKey.id s.api_keys) (ht : Regular s)
    {user : User} {r : TenantRequest} (h : TenantWrite e user s r s') : Store.Forward e.Draws s s' := by
  have hsame := Store.Forward.refl e.Draws s
  cases h with
  | organization_created payload =>
    exact { hsame with
      organizations := List.prefix_append _ _
      organization_members := hsame.organization_members.insert ⟨1, rfl⟩
      audit_logs := List.prefix_append _ _ }
  | member_added =>
    exact { hsame with organization_members := hsame.organization_members.insert ⟨0, rfl⟩ }
  | role_changed =>
    exact { hsame with
      organization_members := .update (Same.refl _) fun _ _ _ => ⟨rfl, rfl⟩
      audit_logs := List.prefix_append _ _ }
  | member_removed =>
    exact { hsame with organization_members := .filter (Same.refl _) _ }
  | service_created =>
    exact { hsame with
      services := hsame.services.insert ⟨0, rfl⟩
      audit_logs := List.prefix_append _ _ }
  | service_updated _ _ service changed _ _ hv _ _ hchanged =>
    obtain ⟨hmem, _, _⟩ := resource_of_ok hv
    have hidentity := changed_service_identity hchanged
    refine { hsame with services := .update (Same.refl _) fun v hv hmatch => ?_ }
    have hid : v.id = service.id :=
      (of_decide_eq_true hmatch).trans (congrArg Prod.fst hidentity)
    rw [hc.service_ids.eq hv hmem hid]
    exact ⟨congrArg Prod.fst hidentity, hidentity⟩
  | service_deleted =>
    exact { hsame with
      services := .filter (Same.refl _) _
      api_keys := .filter ApiKey.Forward.refl _
      events := .filter (fun _ => rfl) _
      incidents := .filter Incident.Forward.refl _ }
  | key_created =>
    exact { hsame with
      api_keys := hsame.api_keys.insert ⟨0, rfl⟩
      audit_logs := List.prefix_append _ _ }
  | key_revoked _ api_key _ hk _ hlive =>
    obtain ⟨hmem, _, _⟩ := resource_of_ok hk
    exact { hsame with
      api_keys := keys_revoked hkeys hmem hlive _ _
      audit_logs := List.prefix_append _ _ }
  | key_rotated _ old_key _ _ _ hk _ hlive =>
    obtain ⟨hmem, _, _⟩ := resource_of_ok hk
    exact { hsame with
      api_keys := (keys_revoked hkeys hmem hlive _ _).insert ⟨0, rfl⟩
      audit_logs := List.prefix_append _ _ }
  | acknowledged _ incident _ hi _ hopen =>
    obtain ⟨hmem, _, _⟩ := resource_of_ok hi
    have hforward := acknowledged_forward hopen (ht.unassigned incident hmem hopen) user.id (e.clock 1) e.now
    exact { hsame with
      incidents := incident_moved hc.incident_ids hmem hforward _
      audit_logs := List.prefix_append _ _ }
  | resolved _ incident _ hi _ hopen =>
    obtain ⟨hmem, _, _⟩ := resource_of_ok hi
    have hforward := resolved_forward (ht.unresolved incident hmem hopen) user.id (e.clock 1) e.now
    exact { hsame with
      incidents := incident_moved hc.incident_ids hmem hforward _
      audit_logs := List.prefix_append _ _ }

omit [Platform] in
theorem severity_raised (i : Incident) (now : Int) : i.Forward (raiseSeverity now i) :=
  ⟨rfl, Nat.le_refl _, Or.inr rfl, .refl _, .refl _, .refl _⟩

omit [Platform] in
theorem evaluated_forward {event : Event} {reply : Except Failure (Option UUID)}
    (h : Evaluated e event s reply s') : Store.Forward e.Draws s s' := by
  have hsame := Store.Forward.refl e.Draws s
  cases h with
  | early => exact hsame
  | quiet => exact hsame
  | attached incident =>
    obtain ⟨links, rows, _, hrows, heq⟩ := attached_eq e incident event s
    rw [heq]
    refine { hsame with incidents := ?_ }
    rcases hrows with rfl | rfl
    · exact hsame.incidents
    · exact .update Incident.Forward.refl fun i _ _ => ⟨rfl, severity_raised i _⟩
  | opened => exact { hsame with incidents := hsame.incidents.insert ⟨1, rfl⟩ }

theorem ingest_forward {payload : EventCreate} {k : ApiKey}
    {reply : Except Failure EventIngestResponse} (h : IngestOutcome e payload k s reply s') :
    Store.Forward e.Draws s s' := by
  have hsame := Store.Forward.refl e.Draws s
  cases h with
  | limited => exact hsame
  | duplicate => exact { hsame with api_keys := key_touched _ _ _ }
  | unstorable => exact hsame
  | failed => exact hsame
  | stored _ _ _ _ _ he =>
    refine Store.Forward.trans ?_ (evaluated_forward he)
    exact { hsame with
      api_keys := key_touched _ _ _
      events := hsame.events.insert ⟨0, rfl⟩ }

end

/-! ## Every reachable store is regular -/

section
variable {e : Env} {s s' : Store}

omit [Platform] in
theorem Regular.congr {t : Store} (h : Regular s) (hr : t.password_reset_tokens = s.password_reset_tokens)
    (hi : t.incidents = s.incidents) : Regular t :=
  ⟨hr ▸ h.reset_ids, hi ▸ h.unassigned, hi ▸ h.unresolved⟩

omit [Platform] in
/-- An update of incidents that leaves none of the changed rows open. -/
theorem Regular.update_incident (h : Regular s) {incident_id : UUID} {f : Incident → Incident}
    (hopen : ∀ i ∈ s.incidents, (f i).status ≠ .OPEN)
    (hresolved : ∀ i ∈ s.incidents, (f i).status ≠ .RESOLVED → (f i).resolved_at = none) :
    Regular (updateIncident incident_id f s) where
  reset_ids := h.reset_ids
  unassigned := forall_updateWhere h.unassigned fun i hi _ ho => absurd ho (hopen i hi)
  unresolved := forall_updateWhere h.unresolved fun i hi _ => hresolved i hi

theorem auth_regular (h : Regular s) (hf : Fresh e s) {r : AuthRequest} {reply : Except Failure Body}
    (hs' : AuthOutcome e s r reply s') : Regular s' := by
  cases hs' with
  | forgot email user =>
    have hold : UniqueOn PasswordResetToken.id
        (updateWhere (fun r => r.user_id = user.id && r.used_at.isNone)
          (fun r => { r with used_at := some (e.clock 1) }) s.password_reset_tokens) :=
      h.reset_ids.update fun _ _ _ => rfl
    refine ⟨hold.insert ?_, h.unassigned, h.unresolved⟩
    exact forall_updateWhere (hf.reset_token 0) fun r hr _ => hf.reset_token 0 r hr
  | password_reset => exact { h with reset_ids := h.reset_ids.update fun _ _ _ => rfl }
  | _ => exact h.congr rfl rfl

theorem tenant_regular (h : Regular s) (hids : UniqueOn Incident.id s.incidents) {user : User}
    {r : TenantRequest} (hs' : TenantWrite e user s r s') : Regular s' := by
  cases hs' with
  | service_deleted _ service =>
    refine ⟨h.reset_ids, fun i hi => ?_, fun i hi => ?_⟩
    · exact h.unassigned i (List.mem_filter.mp hi).1
    · exact h.unresolved i (List.mem_filter.mp hi).1
  | acknowledged _ incident _ hi _ hopen =>
    obtain ⟨hmem, _, _⟩ := resource_of_ok hi
    refine Regular.congr (s := updateIncident incident.id (acknowledged user.id (e.clock 1) e.now) s) ?_ rfl rfl
    refine ⟨h.reset_ids, ?_, ?_⟩
    · exact forall_updateWhere h.unassigned fun i _ _ hstatus => nomatch hstatus
    · refine forall_updateWhere h.unresolved fun i himem hid _ => ?_
      rw [hids.eq himem hmem (of_decide_eq_true hid)]
      refine h.unresolved incident hmem ?_
      rw [hopen]
      decide
  | resolved _ incident =>
    have hresolved : Regular (updateIncident incident.id
        (resolved user.id (e.clock 1) e.now incident.assigned_to.isNone) s) :=
      h.update_incident (fun _ _ hstatus => nomatch hstatus) fun _ _ hstatus => absurd rfl hstatus
    exact hresolved.congr rfl rfl
  | _ => exact h.congr rfl rfl

omit [Platform] in
theorem evaluated_regular (h : Regular s) {event : Event} {reply : Except Failure (Option UUID)}
    (hs' : Evaluated e event s reply s') : Regular s' := by
  cases hs' with
  | early => exact h
  | quiet => exact h
  | attached incident =>
    obtain ⟨links, rows, _, hrows, heq⟩ := attached_eq e incident event s
    rw [heq]
    rcases hrows with rfl | rfl
    · exact h.congr rfl rfl
    · refine ⟨h.reset_ids, ?_, ?_⟩
      · exact forall_updateWhere h.unassigned fun i hi _ => h.unassigned i hi
      · exact forall_updateWhere h.unresolved fun i hi _ => h.unresolved i hi
  | opened =>
    refine ⟨h.reset_ids, ?_, ?_⟩
    · exact forall_insert h.unassigned fun _ => ⟨rfl, rfl⟩
    · exact forall_insert h.unresolved fun _ => rfl

theorem ingest_regular (h : Regular s) {payload : EventCreate} {k : ApiKey}
    {reply : Except Failure EventIngestResponse} (hs' : IngestOutcome e payload k s reply s') :
    Regular s' := by
  cases hs' with
  | limited => exact h
  | duplicate => exact h.congr rfl rfl
  | unstorable => exact h
  | failed => exact h
  | stored _ _ _ _ _ he =>
    have hstored : Regular (storeEvent e payload k s) := h.congr rfl rfl
    exact evaluated_regular hstored he

theorem reachable_regular (h : Reachable s) : Regular s := by
  refine h.inv ?_ fun t e r ht hf hregular => ?_
  · constructor <;> simp [Store.empty]
  · apply served_cases (P := fun _ t' => Regular t')
    · exact fun _ => hregular
    · exact fun _ _ _ ho => auth_regular hregular hf ho
    · exact fun _ _ _ _ _ hw => tenant_regular hregular ht.consistent.incident_ids hw
    · exact fun _ _ _ _ _ _ ho => ingest_regular hregular ho

/-! ## Any later store -/

theorem served_forward (hs : Reachable s) (r : Request) : Store.Forward e.Draws s (handle e r s).2 := by
  have hkeyed := reachable_keyed hs
  have hregular := reachable_regular hs
  apply served_cases (P := fun _ t => Store.Forward e.Draws s t)
  · exact fun _ => .refl _ _
  · exact fun _ _ _ ho => auth_forward hkeyed.session_ids hregular.reset_ids ho
  · exact fun _ _ _ _ _ hw => tenant_forward hs.consistent hkeyed.key_ids hregular hw
  · exact fun _ _ _ _ _ _ ho => ingest_forward ho

/-- The requests draw ids that are new at their time, and none that the store has, as
those of `uuid4` are: what is deleted does not come back under its id. -/
structure DrawsNew (s : Store) (later : List (Env × Request)) : Prop where
  fresh : run.Every serve s (fun s c => Fresh c.1 s) later
  unused : ∀ c ∈ later, ∀ k, c.1.uuid k ∉ s.ids

/-- What the later of two stores still says of the earlier one. Accounts, sessions and
reset tokens are there in their places, organizations and audit entries as they were; a
membership, service, key, event or incident is gone, or it is what it was. -/
structure Remembers (s s' : Store) : Prop where
  audit_logs : s.audit_logs <+: s'.audit_logs
  organizations : s.organizations <+: s'.organizations
  users : Grown (Same User.identity) s.users s'.users
  refresh_tokens : Grown RefreshToken.Forward s.refresh_tokens s'.refresh_tokens
  password_reset_tokens :
    Grown PasswordResetToken.Forward s.password_reset_tokens s'.password_reset_tokens
  organization_members : ∀ m ∈ s.organization_members, ∀ m' ∈ s'.organization_members,
    m'.id = m.id → m'.identity = m.identity
  services : ∀ v ∈ s.services, ∀ v' ∈ s'.services, v'.id = v.id → v'.identity = v.identity
  api_keys : ∀ k ∈ s.api_keys, ∀ k' ∈ s'.api_keys, k'.id = k.id → k.Forward k'
  events : ∀ v ∈ s.events, ∀ v' ∈ s'.events, v'.id = v.id → v' = v
  incidents : ∀ i ∈ s.incidents, ∀ i' ∈ s'.incidents, i'.id = i.id → i.Forward i'

theorem later_forward (hs : Reachable s) {later : List (Env × Request)}
    (hfresh : run.Every serve s (fun s c => Fresh c.1 s) later) :
    Reachable (run.after serve s later) ∧
      Store.Forward (fun id => ∃ c ∈ later, c.1.Draws id) s (run.after serve s later) := by
  induction later with
  | nil => exact ⟨hs, .refl _ _⟩
  | cons c later ih =>
    obtain ⟨hreachable, hforward⟩ := ih hfresh.1
    refine ⟨hreachable.served hfresh.2 c.2, ?_⟩
    have hbefore : Store.Forward (fun id => ∃ d ∈ c :: later, d.1.Draws id) s
        (run.after serve s later) :=
      hforward.mono fun id ⟨d, hd, hdraws⟩ => ⟨d, List.mem_cons_of_mem c hd, hdraws⟩
    refine hbefore.trans ((served_forward hreachable c.2).mono fun id hdraws => ?_)
    exact ⟨c, List.mem_cons_self, hdraws⟩

omit [Platform] in
/-- The ids of the tables that rows are deleted from. -/
theorem deletable_ids (s : Store) :
    s.organization_members.map OrganizationMember.id ⊆ s.ids ∧ s.services.map Service.id ⊆ s.ids ∧
      s.api_keys.map ApiKey.id ⊆ s.ids ∧ s.events.map Event.id ⊆ s.ids ∧
      s.incidents.map Incident.id ⊆ s.ids := by
  refine ⟨?_, ?_, ?_, ?_, ?_⟩
  all_goals
    intro id hid
    simp only [Store.ids, List.mem_append]
    tauto

omit [Platform] in
/-- An id of the store is not one that is drawn later. -/
theorem not_drawn {later : List (Env × Request)} (hunused : ∀ c ∈ later, ∀ k, c.1.uuid k ∉ s.ids)
    {α : Type} {rows : List α} {ident : α → UUID} (hids : rows.map ident ⊆ s.ids) {a : α}
    (ha : a ∈ rows) : ¬ ∃ c ∈ later, c.1.Draws (ident a) := by
  rintro ⟨c, hc, k, hk⟩
  exact hunused c hc k (hk ▸ hids (List.mem_map_of_mem ha))

/-- Whatever requests follow, what the store has recorded stays recorded. -/
theorem what_is_recorded_stays (s : Store) (hs : Reachable s) (later : List (Env × Request))
    (hnew : DrawsNew s later) : Remembers s (run.after serve s later) := by
  obtain ⟨_, hforward⟩ := later_forward hs hnew.fresh
  obtain ⟨hmembers, hservices, hkeys, hevents, hincidents⟩ := deletable_ids s
  have hc := hs.consistent
  have hkeyed := reachable_keyed hs
  constructor
  · exact hforward.audit_logs
  · exact hforward.organizations
  · exact hforward.users
  · exact hforward.refresh_tokens
  · exact hforward.password_reset_tokens
  · intro m hm m' hm' heq
    exact hforward.organization_members.row hkeyed.member_ids hm hm' heq
      (not_drawn hnew.unused hmembers hm)
  · intro v hv v' hv' heq
    exact hforward.services.row hc.service_ids hv hv' heq (not_drawn hnew.unused hservices hv)
  · intro k hk k' hk' heq
    exact hforward.api_keys.row hkeyed.key_ids hk hk' heq (not_drawn hnew.unused hkeys hk)
  · intro v hv v' hv' heq
    exact (hforward.events.row hc.event_ids hv hv' heq (not_drawn hnew.unused hevents hv)).symm
  · intro i hi i' hi' heq
    exact hforward.incidents.row hc.incident_ids hi hi' heq (not_drawn hnew.unused hincidents hi)

end

omit [Platform] in
theorem sample_draws_new {s : Store} {later : List (Env × Request)} (n : Nat) (numbers : List Nat)
    (hdraws : later.map Prod.fst = numbers.map sampleEnv) (hn : ∀ m ∈ numbers, n ≤ m)
    (hids : ∀ id ∈ s.ids, id < 10 * n)
    (hfresh : run.Every (@serve samplePlatform) s (fun s c => Fresh c.1 s) later) :
    @DrawsNew samplePlatform s later := by
  refine @DrawsNew.mk samplePlatform _ _ hfresh fun c hc k hk => ?_
  have hmem : c.1 ∈ numbers.map sampleEnv := hdraws ▸ List.mem_map_of_mem hc
  obtain ⟨m, hm, heq⟩ := List.mem_map.mp hmem
  have hlt := hids _ hk
  rw [← heq] at hlt
  have hdrawn : 10 * m + k < 10 * n := hlt
  have hle := hn m hm
  omega

/-- After the sample run, a reset is asked for, the incident is acknowledged and resolved,
the key revoked and the service deleted. -/
def sampleLater : List (Env × Request) :=
  [(sampleEnv 14, .tenant (sampleBearer 0 1) (.delete_service 30)),
   (sampleEnv 13, .tenant (sampleBearer 0 1) (.revoke_api_key 40)),
   (sampleEnv 12, .tenant (sampleBearer 0 1) (.resolve_incident 91)),
   (sampleEnv 11, .tenant (sampleBearer 0 1) (.acknowledge_incident 91)),
   (sampleEnv 10, .auth (.forgot_password sampleLogin.email))]

omit [Platform] in
theorem sample_later_fresh :
    run.Every (@serve samplePlatform) Store.empty (fun s c => Fresh c.1 s) (sampleLater ++ sampleRun) :=
  fresh_of_drawsInOrder [14, 13, 12, 11, 10, 9, 8, 7, 6, 5, 4, 3, 2, 1, 0] rfl (by decide +kernel)

omit [Platform] in
/-- What the sample run recorded is there after the service was deleted, or gone with it. -/
theorem the_sample_record_stays :
    let s := run.after (@serve samplePlatform) Store.empty sampleRun
    Remembers s (run.after (@serve samplePlatform) s sampleLater) := by
  intro s
  have hlater := ((run.every_append sampleRun sampleLater).mp sample_later_fresh).2
  exact @what_is_recorded_stays samplePlatform s sample_reachable sampleLater
    (sample_draws_new 10 [14, 13, 12, 11, 10] rfl (by decide) (by decide +kernel) hlater)

/-! ## Requests that come again -/

/-- The incident has come at least to this place of its life. -/
def IncidentAt (least : Nat) (incident_id : UUID) (s : Store) : Prop :=
  ∀ i ∈ s.incidents, i.id = incident_id → least ≤ i.status.rank

def KeyRevoked (api_key_id : UUID) (s : Store) : Prop :=
  ∀ k ∈ s.api_keys, k.id = api_key_id → k.revoked_at.isSome = true

/-- The row that the request names is there. -/
def TenantRequest.Present : TenantRequest → Store → Prop
  | .acknowledge_incident incident_id | .resolve_incident incident_id =>
    fun s => ∃ i ∈ s.incidents, i.id = incident_id
  | .revoke_api_key api_key_id | .rotate_api_key api_key_id =>
    fun s => ∃ k ∈ s.api_keys, k.id = api_key_id
  | _ => fun _ => True

/-- What holds of that row once the request was accepted. -/
def TenantRequest.Settled : TenantRequest → Store → Prop
  | .acknowledge_incident incident_id => IncidentAt 1 incident_id
  | .resolve_incident incident_id => IncidentAt 2 incident_id
  | .revoke_api_key api_key_id | .rotate_api_key api_key_id => KeyRevoked api_key_id
  | _ => fun _ => True

/-- After the first request was accepted, the second one has nothing left to do. -/
inductive Settles : TenantRequest → TenantRequest → Prop
  | acknowledged (incident_id : UUID) :
      Settles (.acknowledge_incident incident_id) (.acknowledge_incident incident_id)
  | resolved (incident_id : UUID) :
      Settles (.resolve_incident incident_id) (.resolve_incident incident_id)
  | resolved_acknowledge (incident_id : UUID) :
      Settles (.resolve_incident incident_id) (.acknowledge_incident incident_id)
  | revoked (api_key_id : UUID) : Settles (.revoke_api_key api_key_id) (.revoke_api_key api_key_id)
  | revoked_rotate (api_key_id : UUID) :
      Settles (.revoke_api_key api_key_id) (.rotate_api_key api_key_id)
  | rotated (api_key_id : UUID) : Settles (.rotate_api_key api_key_id) (.rotate_api_key api_key_id)
  | rotated_revoke (api_key_id : UUID) :
      Settles (.rotate_api_key api_key_id) (.revoke_api_key api_key_id)

section
variable {e : Env} {s s' : Store} {user : User}

omit [Platform] in
/-- An incident that was read, after an update that takes it to a place. -/
theorem incident_at_updated {row : Incident} (hrow : row ∈ s.incidents) {f : Incident → Incident}
    {least : Nat} (hid : ∀ i, (f i).id = i.id) (hrank : ∀ i, least ≤ (f i).status.rank) :
    (∃ i ∈ (updateIncident row.id f s).incidents, i.id = row.id) ∧
      IncidentAt least row.id (updateIncident row.id f s) := by
  refine ⟨⟨f row, ?_, hid row⟩, fun i hi heq => ?_⟩
  · exact mem_updateWhere.mpr ⟨row, hrow, by simp⟩
  · obtain ⟨i₀, _, rfl⟩ := mem_updateWhere.mp hi
    split
    · exact hrank i₀
    · next hother =>
      rw [if_neg hother] at heq
      exact absurd (decide_eq_true heq) hother

omit [Platform] in
theorem incident_at_read (hids : UniqueOn Incident.id s.incidents) {row : Incident}
    (hrow : row ∈ s.incidents) {least : Nat} (hrank : least ≤ row.status.rank) :
    (∃ i ∈ s.incidents, i.id = row.id) ∧ IncidentAt least row.id s := by
  refine ⟨⟨row, hrow, rfl⟩, fun i hi heq => ?_⟩
  rwa [hids.eq hi hrow heq]

omit [Platform] in
theorem key_revoked_updated {row : ApiKey} (hrow : row ∈ s.api_keys) (now : Int) (more : List ApiKey)
    (hmore : ∀ k ∈ more, k.id ≠ row.id) (t : Store)
    (ht : t.api_keys = (revokeKey row.id now s).api_keys ++ more) :
    (∃ k ∈ t.api_keys, k.id = row.id) ∧ KeyRevoked row.id t := by
  unfold KeyRevoked
  rw [ht]
  refine ⟨⟨{ row with revoked_at := some now }, ?_, rfl⟩, fun k hk heq => ?_⟩
  · exact List.mem_append_left _ (mem_updateWhere.mpr ⟨row, hrow, by simp⟩)
  · rcases List.mem_append.mp hk with hold | hnew
    · obtain ⟨k₀, _, rfl⟩ := mem_updateWhere.mp hold
      split
      · rfl
      · next hother =>
        rw [if_neg hother] at heq
        exact absurd (decide_eq_true heq) hother
    · exact absurd heq (hmore k hnew)

theorem acknowledge_settles (hids : UniqueOn Incident.id s.incidents) (incident_id : UUID) :
    Yields (acknowledge_incident e incident_id user) ⟨s, s⟩ fun _ s' =>
      (∃ i ∈ s'.committed.incidents, i.id = incident_id) ∧ IncidentAt 1 incident_id s'.committed := by
  unfold acknowledge_incident
  refine yields_ask fun incident hi => yields_ask fun actor _ => ?_
  obtain ⟨hmem, rfl, _⟩ := resource_of_ok hi
  split
  · exact yields_throw _
  · split
    · refine yields_write (yields_write (yields_commit (yields_pure ?_)))
      exact incident_at_updated hmem (fun _ => rfl) fun _ => Nat.le_refl _
    · next hopen =>
      refine yields_pure (incident_at_read hids hmem ?_)
      cases hstatus : incident.status with
      | OPEN => exact absurd hstatus hopen
      | ACKNOWLEDGED => decide
      | RESOLVED => decide

theorem resolve_settles (hids : UniqueOn Incident.id s.incidents) (incident_id : UUID) :
    Yields (resolve_incident e incident_id user) ⟨s, s⟩ fun _ s' =>
      (∃ i ∈ s'.committed.incidents, i.id = incident_id) ∧ IncidentAt 2 incident_id s'.committed := by
  unfold resolve_incident
  refine yields_ask fun incident hi => yields_ask fun actor _ => ?_
  obtain ⟨hmem, rfl, _⟩ := resource_of_ok hi
  split
  · refine yields_write (yields_write (yields_commit (yields_pure ?_)))
    exact incident_at_updated hmem (fun _ => rfl) fun _ => Nat.le_refl _
  · next hresolved =>
    refine yields_pure (incident_at_read hids hmem ?_)
    rw [not_not.mp hresolved]
    decide

theorem revoke_settles (hids : UniqueOn ApiKey.id s.api_keys) (api_key_id : UUID) :
    Yields (revoke_api_key e api_key_id user) ⟨s, s⟩ fun _ s' =>
      (∃ k ∈ s'.committed.api_keys, k.id = api_key_id) ∧ KeyRevoked api_key_id s'.committed := by
  unfold revoke_api_key
  refine yields_ask fun api_key hk => yields_ask fun actor _ => ?_
  obtain ⟨hmem, rfl, _⟩ := resource_of_ok hk
  split
  · refine yields_write (yields_write ?_)
    rintro _ ⟨⟩
    exact key_revoked_updated hmem (e.clock 1) [] (by simp) _ (List.append_nil _).symm
  · next hrevoked =>
    refine yields_pure ⟨⟨api_key, hmem, rfl⟩, fun k hkmem heq => ?_⟩
    rw [hids.eq hkmem hmem heq]
    simpa [← Option.isSome_iff_ne_none] using hrevoked

theorem issue_api_key_adds (service : Service) (payload : ApiKeyCreate) (user_id : UUID)
    (action : AuditAction) (metadata : Metadata) (t : Session Store) :
    Yields (issue_api_key e service payload user_id action metadata) t fun _ s' =>
      s'.committed.api_keys = t.work.api_keys ++ [new_api_key e service payload] := by
  unfold issue_api_key
  refine yields_flush fun w hw => yields_write (yields_commit (yields_pure ?_))
  unfold insertApiKey at hw
  split at hw
  · cases hw
    rfl
  · cases hw

theorem rotate_settles (hf : Fresh e s) (api_key_id : UUID) :
    Yields (rotate_api_key e api_key_id user) ⟨s, s⟩ fun _ s' =>
      (∃ k ∈ s'.committed.api_keys, k.id = api_key_id) ∧ KeyRevoked api_key_id s'.committed := by
  unfold rotate_api_key
  refine yields_ask fun old_key hk => yields_ask fun actor _ => ?_
  obtain ⟨hmem, rfl, _⟩ := resource_of_ok hk
  split
  · exact yields_throw _
  · split
    · exact yields_throw _
    · refine yields_ask fun service _ => yields_write (yields_ask fun payload _ => ?_)
      refine (issue_api_key_adds service payload user.id _ _ _).mono fun _ s' hadds created heq => ?_
      refine key_revoked_updated hmem (e.clock 2) [new_api_key e service payload] ?_ _ (hadds created heq)
      intro k hnew
      rw [List.mem_singleton.mp hnew]
      exact (hf.api_key 0 old_key hmem).symm

theorem settled_of_accepted (hs : Reachable s) (hf : Fresh e s) {credentials : Option Bearer}
    {r : TenantRequest} {body : Body} (hok : (handle e (.tenant credentials r) s).1 = .ok body) :
    r.Present (handle e (.tenant credentials r) s).2 ∧
      r.Settled (handle e (.tenant credentials r) s).2 := by
  have hincidents := hs.consistent.incident_ids
  have hkeys := (reachable_keyed hs).key_ids
  refine tenant_yields (P := fun _ s' => r.Present s' ∧ r.Settled s') (fun user => ?_) hok
  cases r with
  | acknowledge_incident incident_id => exact yields_answer (acknowledge_settles hincidents incident_id)
  | resolve_incident incident_id => exact yields_answer (resolve_settles hincidents incident_id)
  | revoke_api_key api_key_id => exact yields_answer (revoke_settles hkeys api_key_id)
  | rotate_api_key api_key_id => exact yields_answer (rotate_settles hf api_key_id)
  | _ => exact fun _ _ => ⟨trivial, trivial⟩

/-- A row with the id of one that was there is that row, moved. -/
theorem later_row {later : List (Env × Request)} (hnew : DrawsNew s later)
    {α : Type} {ident : α → UUID} {R : α → α → Prop} {rows rows' : List α}
    (hids : rows.map ident ⊆ s.ids)
    (hmoved : Moved ident R (fun id => ∃ c ∈ later, c.1.Draws id) rows rows') {a a' : α}
    (ha : a ∈ rows) (ha' : a' ∈ rows') (heq : ident a' = ident a) :
    ∃ b ∈ rows, ident b = ident a ∧ R b a' := by
  rcases hmoved a' ha' with hdrawn | ⟨b, hb, hbid, hforward⟩
  · exact absurd (heq ▸ hdrawn) (not_drawn hnew.unused hids ha)
  · exact ⟨b, hb, hbid.trans heq, hforward⟩

/-- What was settled stays so. -/
theorem settled_stays (hs : Reachable s) {later : List (Env × Request)} (hnew : DrawsNew s later)
    {r : TenantRequest} (hpresent : r.Present s) (h : r.Settled s) :
    r.Settled (run.after serve s later) := by
  obtain ⟨_, hforward⟩ := later_forward hs hnew.fresh
  obtain ⟨_, _, hkeys, _, hincidents⟩ := deletable_ids s
  have hincident : ∀ least incident_id, (∃ i ∈ s.incidents, i.id = incident_id) →
      IncidentAt least incident_id s → IncidentAt least incident_id (run.after serve s later) := by
    rintro least _ ⟨i₀, hi₀, rfl⟩ hat i' hi' heq
    obtain ⟨i, hi, hid, hmoved⟩ := later_row hnew hincidents hforward.incidents hi₀ hi' heq
    exact (hat i hi hid).trans hmoved.status
  have hkey : ∀ api_key_id, (∃ k ∈ s.api_keys, k.id = api_key_id) →
      KeyRevoked api_key_id s → KeyRevoked api_key_id (run.after serve s later) := by
    rintro _ ⟨k₀, hk₀, rfl⟩ hrevoked k' hk' heq
    obtain ⟨k, hk, hid, hmoved⟩ := later_row hnew hkeys hforward.api_keys hk₀ hk' heq
    obtain ⟨t, ht⟩ := Option.isSome_iff_exists.mp (hrevoked k hk hid)
    exact Option.isSome_iff_exists.mpr ⟨t, hmoved.revoked_at t ht⟩
  cases r with
  | acknowledge_incident => exact hincident 1 _ hpresent h
  | resolve_incident => exact hincident 2 _ hpresent h
  | revoke_api_key => exact hkey _ hpresent h
  | rotate_api_key => exact hkey _ hpresent h
  | _ => trivial

/-- A request that the settled store answers writes nothing. -/
theorem settled_writes_nothing {r r' : TenantRequest} (hsettles : Settles r r') (h : r.Settled s)
    {credentials : Option Bearer} : (handle e (.tenant credentials r') s).2 = s := by
  rcases tenant_outcome e credentials r' s with heq | ⟨user, _, hw⟩
  · exact heq
  · exfalso
    generalize (handle e (.tenant credentials r') s).2 = s' at hw
    cases hsettles with
    | acknowledged | resolved_acknowledge =>
      cases hw with
      | acknowledged _ incident _ hi _ hopen =>
        obtain ⟨hmem, hid, _⟩ := resource_of_ok hi
        have hrank := h incident hmem hid
        rw [hopen] at hrank
        exact absurd hrank (by decide)
    | resolved =>
      cases hw with
      | resolved _ incident _ hi _ hopen =>
        obtain ⟨hmem, hid, _⟩ := resource_of_ok hi
        have hrank := h incident hmem hid
        cases hstatus : incident.status with
        | RESOLVED => exact hopen hstatus
        | OPEN | ACKNOWLEDGED =>
          rw [hstatus] at hrank
          exact absurd hrank (by decide)
    | revoked | rotated_revoke =>
      cases hw with
      | key_revoked _ api_key _ hk _ hlive =>
        obtain ⟨hmem, hid, _⟩ := resource_of_ok hk
        have hrevoked := h api_key hmem hid
        rw [hlive] at hrevoked
        cases hrevoked
    | rotated | revoked_rotate =>
      cases hw with
      | key_rotated _ old_key _ _ _ hk _ hlive =>
        obtain ⟨hmem, hid, _⟩ := resource_of_ok hk
        have hrevoked := h old_key hmem hid
        rw [hlive] at hrevoked
        cases hrevoked

/-- Once an acknowledgement, a resolution, a revocation or a rotation was accepted, the same
request changes nothing, whoever sends it and however much later. -/
theorem what_is_settled_is_not_done_again (e : Env) (s : Store) (hs : Reachable s) (hf : Fresh e s)
    (credentials : Option Bearer) (r : TenantRequest) (body : Body)
    (hok : (handle e (.tenant credentials r) s).1 = .ok body) (later : List (Env × Request))
    (hnew : DrawsNew (handle e (.tenant credentials r) s).2 later) (e' : Env)
    (credentials' : Option Bearer) (r' : TenantRequest) (hsettles : Settles r r') :
    let t := run.after serve (handle e (.tenant credentials r) s).2 later
    (handle e' (.tenant credentials' r') t).2 = t := by
  obtain ⟨hpresent, hsettled⟩ := settled_of_accepted hs hf hok
  exact settled_writes_nothing hsettles (settled_stays (hs.served hf _) hnew hpresent hsettled)

end

omit [Platform] in
/-- After the resolution in the sample, an acknowledgement changes nothing. -/
theorem the_sample_incident_is_settled :
    let s := run.after (@serve samplePlatform) Store.empty (sampleLater.tail.tail.tail ++ sampleRun)
    let r := TenantRequest.resolve_incident 91
    let s' := (@handle samplePlatform (sampleEnv 12) (.tenant (sampleBearer 0 1) r) s).2
    let t := run.after (@serve samplePlatform) s'
      [(sampleEnv 13, .tenant (sampleBearer 0 1) (.revoke_api_key 40))]
    (@handle samplePlatform (sampleEnv 15) (.tenant (sampleBearer 0 1) (.acknowledge_incident 91)) t).2 = t := by
  intro s r s' t
  let _ := samplePlatform
  have hfresh : Fresh (sampleEnv 12) s := sample_later_fresh.1.1.2
  have hreachable : Reachable s := ⟨_, sample_later_fresh.1.1.1, rfl⟩
  have hok : ∃ body, (handle (sampleEnv 12) (.tenant (sampleBearer 0 1) r) s).1 = .ok body := by
    have hanswered : (handle (sampleEnv 12) (.tenant (sampleBearer 0 1) r) s).1.isOk = true := by
      decide +kernel
    cases hreply : (handle (sampleEnv 12) (.tenant (sampleBearer 0 1) r) s).1 with
    | error failure =>
      rw [hreply] at hanswered
      cases hanswered
    | ok body => exact ⟨body, rfl⟩
  obtain ⟨body, hbody⟩ := hok
  have hnext : Fresh (sampleEnv 13) s' := sample_later_fresh.1.2
  have hnew : DrawsNew s' [(sampleEnv 13, .tenant (sampleBearer 0 1) (.revoke_api_key 40))] :=
    sample_draws_new 13 [13] rfl (by decide) (by decide +kernel) ⟨trivial, hnext⟩
  exact what_is_settled_is_not_done_again (sampleEnv 12) s hreachable hfresh _ r body hbody _ hnew
    (sampleEnv 15) _ _ (.resolved_acknowledge 91)

end pulseforge
