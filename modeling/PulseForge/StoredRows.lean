-- What the columns of services and API keys hold in every reachable database:
-- texts that the database takes, in the bounds of their columns, and one service
-- for each slug of an organization.
import PulseForge.WriteIntegrity

open txn table

namespace pulseforge

theorem strip_within (t : Text) : strip t <:+: t :=
  (List.rdropWhile_prefix isSpace _).isInfix.trans (List.dropWhile_suffix isSpace).isInfix

theorem strip_length_le (t : Text) : (strip t).length ≤ t.length := (strip_within t).length_le

variable [Platform]

/-- The slug of a service, in its organization. -/
def Service.slugKey (v : Service) : UUID × Text := (v.organization_id, v.slug)

/-- An API key as `issue_api_key` writes it. -/
structure ApiKey.WellFormed (k : ApiKey) : Prop where
  storable : Platform.storable_text k.name = true
  stripped : strip k.name = k.name
  name_length : k.name.length ≤ 120
  scopes_present : k.scopes ≠ []
  scopes_unique : k.scopes.Nodup

structure StoredRows (s : Store) : Prop where
  services : ∀ v ∈ s.services, v.storable = true
  slugs : UniqueOn Service.slugKey s.services
  keys : ∀ k ∈ s.api_keys, k.WellFormed

section
variable {s s' : Store}

theorem StoredRows.congr {t : Store} (h : StoredRows s) (hv : t.services = s.services)
    (hk : t.api_keys = s.api_keys) : StoredRows t :=
  ⟨hv ▸ h.services, hv ▸ h.slugs, hk ▸ h.keys⟩

/-- An update of keys that keeps their names and scopes. -/
theorem StoredRows.update_keys (h : StoredRows s) {p : ApiKey → Bool} {f : ApiKey → ApiKey}
    (hf : ∀ k, (f k).name = k.name ∧ (f k).scopes = k.scopes) :
    StoredRows { s with api_keys := updateWhere p f s.api_keys } := by
  refine ⟨h.services, h.slugs, forall_updateWhere h.keys fun k hk _ => ?_⟩
  obtain ⟨hname, hscopes⟩ := hf k
  obtain ⟨h1, h2, h3, h4, h5⟩ := h.keys k hk
  constructor
  · rwa [hname]
  · rwa [hname]
  · rwa [hname]
  · rwa [hscopes]
  · rwa [hscopes]

theorem StoredRows.add_key (h : StoredRows s) {e : Env} {service : Service} {payload : ApiKeyCreate}
    (hstorable : Platform.storable_text (new_api_key e service payload).name = true) :
    StoredRows { s with api_keys := s.api_keys ++ [new_api_key e service payload] } := by
  refine ⟨h.services, h.slugs, forall_insert h.keys ?_⟩
  exact ⟨hstorable, strip_strip _, (strip_length_le _).trans payload.name_length.2,
    payload.scopes_present, payload.scopes_unique⟩

omit [Platform] in
/-- No other service has the slug. -/
theorem slug_free {v : Service} (h : slugTaken v s = false) :
    ∀ w ∈ s.services, w.id ≠ v.id → w.slugKey ≠ v.slugKey := by
  intro w hw hid heq
  obtain ⟨horg, hslug⟩ := Prod.mk.inj heq
  rw [slugTaken, List.any_eq_false] at h
  exact h w hw (by simp [hid, horg, hslug])

theorem StoredRows.add_service (h : StoredRows s) {v : Service} (hid : ∀ w ∈ s.services, w.id ≠ v.id)
    (hslug : slugTaken v s = false) (hstorable : v.storable = true) :
    StoredRows { s with services := s.services ++ [v] } := by
  refine ⟨fun w hw => ?_, h.slugs.insert fun w hw => slug_free hslug w hw (hid w hw), h.keys⟩
  rcases List.mem_append.mp hw with hold | hnew
  · exact h.services w hold
  · rwa [List.mem_singleton.mp hnew]

theorem StoredRows.update_service (h : StoredRows s) (hids : UniqueOn Service.id s.services)
    {v : Service} (hslug : slugTaken v s = false) (hstorable : v.storable = true) :
    StoredRows { s with services := updateWhere (fun w => w.id = v.id) (fun _ => v) s.services } := by
  refine ⟨forall_updateWhere h.services fun _ _ _ => hstorable, ?_, h.keys⟩
  have hslugs := h.slugs
  unfold UniqueOn at hids hslugs ⊢
  rw [List.Nodup, List.pairwise_map] at hids hslugs ⊢
  unfold updateWhere
  rw [List.pairwise_map]
  refine (hslugs.and hids).imp_of_mem fun {a b} ha hb hab => ?_
  by_cases hav : a.id = v.id
  · have hbv : b.id ≠ v.id := fun heq => hab.2 (hav.trans heq.symm)
    simpa [hav, hbv] using (slug_free hslug b hb hbv).symm
  · by_cases hbv : b.id = v.id
    · simpa [hav, hbv] using slug_free hslug a ha hav
    · simpa [hav, hbv] using hab.1

theorem tenant_stored_rows (h : StoredRows s) (hids : UniqueOn Service.id s.services) {e : Env}
    (hf : Fresh e s) {user : User} {r : TenantRequest} (hs' : TenantWrite e user s r s') :
    StoredRows s' := by
  cases hs' with
  | organization_created => exact h.congr rfl rfl
  | member_added => exact h.congr rfl rfl
  | role_changed => exact h.congr rfl rfl
  | member_removed => exact h.congr rfl rfl
  | service_created payload _ _ hslug hstorable =>
    have hadded := h.add_service (v := new_service e payload) (hf.service 0) hslug hstorable
    exact hadded.congr rfl rfl
  | service_updated _ _ _ changed _ _ _ _ _ _ hslug hstorable =>
    exact h.update_service hids hslug hstorable
  | service_deleted _ service =>
    refine ⟨fun v hv => ?_, h.slugs.filter _, fun k hk => ?_⟩
    · exact h.services v (List.mem_of_mem_filter hv)
    · exact h.keys k (List.mem_of_mem_filter hk)
  | key_created _ payload service _ _ _ hstorable => exact (h.add_key hstorable).congr rfl rfl
  | key_revoked _ api_key =>
    have hrevoked : StoredRows (revokeKey api_key.id (e.clock 1) s) :=
      h.update_keys fun _ => ⟨rfl, rfl⟩
    exact hrevoked.congr rfl rfl
  | key_rotated _ old_key service _ payload _ _ _ _ _ hstorable =>
    have hrevoked : StoredRows (revokeKey old_key.id (e.clock 2) s) :=
      h.update_keys fun _ => ⟨rfl, rfl⟩
    exact (hrevoked.add_key hstorable).congr rfl rfl
  | acknowledged => exact h.congr rfl rfl
  | resolved => exact h.congr rfl rfl

theorem ingest_stored_rows (h : StoredRows s) {e : Env} {payload : EventCreate} {k : ApiKey}
    {reply : Except Failure EventIngestResponse} (hs' : IngestOutcome e payload k s reply s') :
    StoredRows s' := by
  have htouch : StoredRows (touchApiKey k.id (e.clock 1) s) := h.update_keys fun _ => ⟨rfl, rfl⟩
  have hstored : StoredRows (storeEvent e payload k s) := htouch.congr rfl rfl
  cases hs' with
  | limited => exact h
  | duplicate => exact htouch
  | unstorable => exact h
  | failed => exact h
  | stored _ _ _ _ _ he =>
    obtain ⟨_, _, rfl⟩ := he.store_eq
    exact hstored.congr rfl rfl

theorem auth_stored_rows (h : StoredRows s) {e : Env} {r : AuthRequest}
    {reply : Except Failure Body} (hs' : AuthOutcome e s r reply s') : StoredRows s' := by
  cases hs' <;> exact h.congr rfl rfl

theorem reachable_stored_rows (h : Reachable s) : StoredRows s := by
  refine h.inv ?_ fun t e r ht hf hrows => ?_
  · constructor <;> simp [Store.empty]
  · apply served_cases (P := fun _ t' => StoredRows t')
    · exact fun _ => hrows
    · exact fun _ _ _ ho => auth_stored_rows hrows ho
    · exact fun _ _ _ _ _ hw => tenant_stored_rows hrows ht.consistent.service_ids hf hw
    · exact fun _ _ _ _ _ _ ho => ingest_stored_rows hrows ho

end

end pulseforge
