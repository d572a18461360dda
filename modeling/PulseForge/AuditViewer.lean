-- The page of the audit log. It asks for the rows after as many as it holds; the
-- listing it counts in is newest first and grows at its front, so that the offset
-- fits as long as nothing was recorded since the query of the first page, and the
-- button that was clicked counted the rows that the page holds.
import PulseForge.Lib.Paging
import PulseForge.Lib.Run
import PulseForge.Lib.Table
import PulseForge.Tenants
import Mathlib.Data.Prod.Lex

open table paging

namespace pulseforge

/-! ## The page -/

def PAGE_SIZE : Nat := 25

/-- A load that waits for its answer. -/
structure AuditLoad where
  request : Nat
  organizationId : UUID
  offset : Nat
  /-- The audit log of the organization when the server ran the query. -/
  listing : Option (List AuditLog)

/-- What the last render of the page saw: its buttons and its effect run with that. -/
structure AuditRender where
  organizationId : Option UUID
  canRead : Bool
  loadedOrganizationId : Option UUID
  logsLength : Nat
  hasMore : Bool

/-- The page, beside the database. -/
structure AuditLogsPage where
  store : Store
  rendered : AuditRender
  /-- The effect of the last render has not run yet. -/
  effectDue : Bool
  requestNumber : Nat
  logs : List AuditLog
  loadedOrganizationId : Option UUID
  hasMore : Bool
  loads : List AuditLoad

inductive AuditEvent
  | recorded (entry : AuditLog)
  | select (organizationId : Option UUID) (canRead : Bool)
  | render
  | effect
  | refresh
  | loadMore
  /-- The server runs the query of a load. -/
  | queried (k : Nat)
  | answered (k : Nat)
  | failed (k : Nat)

namespace AuditLogsPage

/-- `load` of the closure of the last render, up to its `await`. -/
def load (append : Bool) (s : AuditLogsPage) : AuditLogsPage :=
  match s.rendered.organizationId with
  | none => s
  | some organizationId =>
    if s.rendered.canRead then
      { s with
        requestNumber := s.requestNumber + 1,
        loads := s.loads ++ [{
          request := s.requestNumber + 1,
          organizationId,
          offset := if append && s.rendered.loadedOrganizationId = some organizationId
            then s.rendered.logsLength else 0,
          listing := none }] }
    else s

/-- The answer is for the newest request and for the organization on the page. -/
def accepts (l : AuditLoad) (s : AuditLogsPage) : Bool :=
  l.request = s.requestNumber && s.rendered.organizationId = some l.organizationId

/-- The rest of `load`, with the rows that were answered. -/
def finishLoad (l : AuditLoad) (result : List AuditLog) (s : AuditLogsPage) : AuditLogsPage :=
  if s.accepts l then
    { s with
      logs := if l.offset ≠ 0 then s.logs ++ result else result,
      loadedOrganizationId := some l.organizationId,
      hasMore := result.length = PAGE_SIZE }
  else s

def runEffect (s : AuditLogsPage) : AuditLogsPage :=
  if s.effectDue then load false { s with effectDue := false } else s

/-- The page renders with what it holds now. -/
def render (s : AuditLogsPage) : AuditLogsPage :=
  { s with rendered := {
      s.rendered with
      loadedOrganizationId := s.loadedOrganizationId,
      logsLength := s.logs.length,
      hasMore := s.hasMore } }

/-- Another organization or role is rendered, after the effect of the render before. -/
def select (organizationId : Option UUID) (canRead : Bool) (s : AuditLogsPage) : AuditLogsPage :=
  if organizationId = s.rendered.organizationId ∧ canRead = s.rendered.canRead then s.render
  else
    let s := s.runEffect.render
    { s with rendered := { s.rendered with organizationId, canRead }, effectDue := true }

/-- The primary key refuses an id that is there. -/
def record (entry : AuditLog) (s : AuditLogsPage) : AuditLogsPage :=
  if s.store.audit_logs.any fun a => a.id = entry.id then s
  else { s with store := { s.store with audit_logs := s.store.audit_logs ++ [entry] } }

/-- The page of an organization that was selected first, on an empty database. -/
def opened (organizationId : Option UUID) (canRead : Bool) : AuditLogsPage where
  store := Store.empty
  rendered := ⟨organizationId, canRead, none, 0, false⟩
  effectDue := true
  requestNumber := 0
  logs := []
  loadedOrganizationId := none
  hasMore := false
  loads := []

end AuditLogsPage

/-- The server runs the query of a load, once. -/
def AuditLoad.queried (store : Store) (l : AuditLoad) : AuditLoad :=
  if l.listing.isNone then { l with listing := some (auditLogsOf l.organizationId store) } else l

/-- The rows that a load is answered with. -/
def AuditLoad.result (l : AuditLoad) : Option (List AuditLog) := l.listing.map (page PAGE_SIZE l.offset)

def auditStep (s : AuditLogsPage) : AuditEvent → AuditLogsPage
  | .recorded entry => s.record entry
  | .select organizationId canRead => s.select organizationId canRead
  | .render => s.render
  | .effect => s.runEffect
  | .refresh => if s.rendered.canRead then s.load false else s
  | .loadMore =>
    -- the button is there when the rendered rows are those of the organization
    if s.rendered.canRead ∧ s.rendered.loadedOrganizationId = s.rendered.organizationId ∧
      s.rendered.hasMore = true then s.load true else s
  | .queried k =>
    match s.loads[k]? with
    | some l => { s with loads := s.loads.set k (l.queried s.store) }
    | none => s
  | .answered k =>
    match s.loads[k]? with
    | some l =>
      match l.result with
      | some result => AuditLogsPage.finishLoad l result { s with loads := s.loads.eraseIdx k }
      | none => s
    | none => s
  | .failed k => { s with loads := s.loads.eraseIdx k }

/-! ## Each entry once, and the order of the events -/

/-- The place of an entry in `ORDER BY created_at, id`. -/
def AuditLog.place (entry : AuditLog) : Int ×ₗ UUID := toLex (entry.created_at, entry.id)

/-- The page holds no entry twice, and none of the organization is missing between
its first and its last one. -/
structure ShowsOnce (s : AuditLogsPage) : Prop where
  once : UniqueOn AuditLog.id s.logs
  no_gap : ∀ first ∈ s.logs.head?, ∀ last ∈ s.logs.getLast?, ∀ entry ∈ s.store.audit_logs,
    entry.organization_id = first.organization_id → entry.place < first.place →
      last.place < entry.place → entry ∈ s.logs

/-- The entry is newer than what its organization had when the page queried it. -/
def NewerThanSeen (s : AuditLogsPage) (entry : AuditLog) : Prop :=
  (∀ a ∈ s.logs, a.organization_id = entry.organization_id → a.place < entry.place) ∧
    ∀ l ∈ s.loads, ∀ listing ∈ l.listing, entry.organization_id = some l.organizationId →
      ∀ a ∈ listing, a.place < entry.place

/-- The page has rendered the rows that it holds. -/
def UpToDate (s : AuditLogsPage) : Prop :=
  s.rendered.logsLength = s.logs.length ∧ s.rendered.loadedOrganizationId = s.loadedOrganizationId

/-- The number of entries of the organization when the server queried the page
that the rows held begin with. -/
def entriesAtFirstQuery (organizationId : Option UUID) (canRead : Bool) : List AuditEvent → Nat
  | [] => 0
  | event :: past =>
    let s := run.after auditStep (AuditLogsPage.opened organizationId canRead) past
    match event with
    | .answered k =>
      match s.loads[k]? with
      | some l =>
        match l.listing with
        | some listing =>
          if s.accepts l = true ∧ l.offset = 0 then listing.length
          else entriesAtFirstQuery organizationId canRead past
        | none => entriesAtFirstQuery organizationId canRead past
      | none => entriesAtFirstQuery organizationId canRead past
    | _ => entriesAtFirstQuery organizationId canRead past

/-- Entries are recorded in the order of their places, Load more is clicked in a
render that is up to date, and where its answer is accepted the organization has
no entry more when the server queries it than at the query of the first page. -/
def InTurn (organizationId : Option UUID) (canRead : Bool) (past : List AuditEvent)
    (event : AuditEvent) : Prop :=
  let s := run.after auditStep (AuditLogsPage.opened organizationId canRead) past
  match event with
  | .recorded entry => NewerThanSeen s entry
  | .loadMore => UpToDate s
  | .answered k => ∀ l ∈ s.loads[k]?, ∀ listing ∈ l.listing, s.accepts l = true → l.offset ≠ 0 →
      listing.length = entriesAtFirstQuery organizationId canRead past
  | _ => True

instance (s : AuditLogsPage) (entry : AuditLog) : Decidable (NewerThanSeen s entry) :=
  inferInstanceAs (Decidable (_ ∧ _))

instance (s : AuditLogsPage) : Decidable (UpToDate s) := inferInstanceAs (Decidable (_ ∧ _))

instance (organizationId : Option UUID) (canRead : Bool) (past : List AuditEvent) (event : AuditEvent) :
    Decidable (InTurn organizationId canRead past event) := by
  unfold InTurn
  cases event <;> infer_instance

/-! ## The listing -/

/-- The rows of `WHERE` in `list_audit_logs`. -/
def entriesOf (organization_id : UUID) (s : Store) : List AuditLog :=
  s.audit_logs.filter fun a => a.organization_id = some organization_id

theorem mem_entriesOf {organization_id : UUID} {s : Store} {a : AuditLog} :
    a ∈ entriesOf organization_id s ↔
      a ∈ s.audit_logs ∧ a.organization_id = some organization_id := by
  simp [entriesOf]

theorem place_le_iff (a b : AuditLog) : b.place ≤ a.place ↔
    b.created_at < a.created_at ∨ b.created_at = a.created_at ∧ b.id ≤ a.id :=
  Prod.Lex.toLex_le_toLex

theorem auditLogsOf_listing (organization_id : UUID) (s : Store) :
    Listing AuditLog.place (entriesOf organization_id s) (auditLogsOf organization_id s) := by
  let before : AuditLog → AuditLog → Prop := fun a b =>
    b.created_at < a.created_at ∨ b.created_at = a.created_at ∧ b.id ≤ a.id
  have htotal : Std.Total before := ⟨fun a b =>
    (le_total b.place a.place).imp (place_le_iff a b).mp (place_le_iff b a).mp⟩
  have htrans : IsTrans AuditLog before := ⟨fun a b c hab hbc => (place_le_iff a c).mp
    (((place_le_iff b c).mpr hbc).trans ((place_le_iff a b).mpr hab))⟩
  refine ⟨List.perm_insertionSort before _, ?_⟩
  exact (List.pairwise_insertionSort before _).imp fun h => (place_le_iff _ _).mpr h

/-- Entries that stand in the order of their places, each once. -/
structure Listed (organization_id : UUID) (s : Store) (listing : List AuditLog) : Prop where
  ordered : listing.Pairwise fun a b => b.place < a.place
  mem : ∀ a ∈ listing, a ∈ entriesOf organization_id s

theorem auditLogsOf_listed (organization_id : UUID) {s : Store}
    (hids : UniqueOn AuditLog.id s.audit_logs) :
    Listed organization_id s (auditLogsOf organization_id s) := by
  have hlisting := auditLogsOf_listing organization_id s
  refine ⟨?_, fun a ha => hlisting.perm.mem_iff.mp ha⟩
  have hids : UniqueOn AuditLog.id (auditLogsOf organization_id s) :=
    (hlisting.perm.map _).nodup_iff.mpr (hids.filter _)
  refine (hlisting.ordered.and (List.pairwise_map.mp hids)).imp fun h => ?_
  refine h.1.lt_of_ne fun heq => h.2 ?_
  exact (congrArg (fun place => (ofLex place).2) heq).symm

/-- The listing is that of the entries of the organization at some moment so far. -/
def Snapshot (organization_id : UUID) (s : Store) (listing : List AuditLog) : Prop :=
  ∃ before, before <+: s.audit_logs ∧
    listing = auditLogsOf organization_id { s with audit_logs := before }

theorem Snapshot.listed {organization_id : UUID} {s : Store} {listing : List AuditLog}
    (h : Snapshot organization_id s listing) (hids : UniqueOn AuditLog.id s.audit_logs) :
    Listed organization_id s listing := by
  obtain ⟨before, hbefore, rfl⟩ := h
  have hids : UniqueOn AuditLog.id before := hids.sublist (hbefore.sublist.map AuditLog.id)
  have hlisted :
      Listed organization_id { s with audit_logs := before }
        (auditLogsOf organization_id { s with audit_logs := before }) :=
    auditLogsOf_listed organization_id hids
  refine ⟨hlisted.ordered, fun a ha => ?_⟩
  obtain ⟨hmem, horg⟩ := mem_entriesOf.mp (hlisted.mem a ha)
  exact mem_entriesOf.mpr ⟨hbefore.subset hmem, horg⟩

theorem Snapshot.grow {organization_id : UUID} {s t : Store} {listing : List AuditLog}
    (h : Snapshot organization_id s listing) (hgrown : s.audit_logs <+: t.audit_logs) :
    Snapshot organization_id t listing := by
  obtain ⟨before, hbefore, rfl⟩ := h
  exact ⟨before, hbefore.trans hgrown, rfl⟩

/-- Entries are only added, so that two moments with as many are one. -/
theorem Snapshot.unique {organization_id : UUID} {s : Store} {listing listing' : List AuditLog}
    (h : Snapshot organization_id s listing) (h' : Snapshot organization_id s listing')
    (hlength : listing.length = listing'.length) : listing = listing' := by
  obtain ⟨before, hbefore, rfl⟩ := h
  obtain ⟨before', hbefore', rfl⟩ := h'
  unfold auditLogsOf at hlength ⊢
  rw [List.length_insertionSort, List.length_insertionSort] at hlength
  have hsame : before.filter (fun a => a.organization_id = some organization_id) =
      before'.filter fun a => a.organization_id = some organization_id := by
    rcases List.prefix_or_prefix_of_prefix hbefore hbefore' with hle | hle
    · exact (hle.filter _).eq_of_length hlength
    · exact ((hle.filter _).eq_of_length hlength.symm).symm
  rw [show ({ s with audit_logs := before } : Store).audit_logs = before from rfl,
    show ({ s with audit_logs := before' } : Store).audit_logs = before' from rfl, hsame]

/-! ## One event -/

/-- What came after the query of a listing is newer than these rows of it. -/
def NewerAfter (organization_id : UUID) (s : Store) (listing rows : List AuditLog) : Prop :=
  ∀ a ∈ entriesOf organization_id s, a ∉ listing → ∀ b ∈ rows, b.place < a.place

/-- The rows that the page holds are the first ones of the listing of their
organization at the query of the first page, when it had so many entries. -/
structure Holds (s : AuditLogsPage) (entries : Nat) (organization_id : UUID)
    (listing : List AuditLog) : Prop where
  snapshot : Snapshot organization_id s.store listing
  entries : listing.length = entries
  loaded : s.loadedOrganizationId = some organization_id
  rows : s.logs = listing.take s.logs.length
  newer : NewerAfter organization_id s.store listing s.logs

/-- The page and its loads, while every event comes in turn. -/
structure Viewed (s : AuditLogsPage) (entries : Nat) : Prop where
  ids : UniqueOn AuditLog.id s.store.audit_logs
  requests : (s.loads.map AuditLoad.request).Nodup ∧ ∀ l ∈ s.loads, l.request ≤ s.requestNumber
  listings : ∀ l ∈ s.loads, ∀ listing ∈ l.listing, Snapshot l.organizationId s.store listing ∧
    NewerAfter l.organizationId s.store listing listing
  offsets : ∀ l ∈ s.loads, l.request = s.requestNumber → l.offset ≠ 0 →
    l.offset = s.logs.length ∧ s.loadedOrganizationId = some l.organizationId
  held : s.logs = [] ∧ s.loadedOrganizationId = none ∨
    ∃ organization_id listing, Holds s entries organization_id listing

theorem Holds.segment {s : AuditLogsPage} {entries : Nat} {organization_id : UUID}
    {listing : List AuditLog} (h : Holds s entries organization_id listing)
    (hids : UniqueOn AuditLog.id s.store.audit_logs) :
    Segment AuditLog.place (entriesOf organization_id s.store) s.logs := by
  have hlisted := h.snapshot.listed hids
  have hinfix : s.logs <:+: listing := by
    rw [h.rows]
    exact (List.take_prefix _ _).isInfix
  refine (Segment.of_infix hlisted.ordered hinfix).grow hlisted.mem fun a ha hnew hbetween => ?_
  obtain ⟨first, hfirst, _, _, hbefore, _⟩ := hbetween
  exact absurd (h.newer a ha hnew first (List.mem_of_mem_head? hfirst)) hbefore.asymm

theorem Viewed.showsOnce {s : AuditLogsPage} {entries : Nat} (h : Viewed s entries) : ShowsOnce s := by
  rcases h.held with ⟨hnil, _⟩ | ⟨organization_id, listing, hheld⟩
  · refine ⟨?_, ?_⟩
    · rw [hnil]
      exact uniqueOn_nil _
    · rw [hnil]
      exact nofun
  have hsegment := hheld.segment h.ids
  have hmem : ∀ a ∈ s.logs, a ∈ s.store.audit_logs ∧ a.organization_id = some organization_id :=
    fun a ha => mem_entriesOf.mp (hsegment.mem a ha)
  constructor
  · have hnodup : s.logs.Nodup := hsegment.ordered.imp fun hlt heq => (heq ▸ hlt).false
    refine hnodup.map_on fun a ha b hb heq => ?_
    exact h.ids.eq (hmem a ha).1 (hmem b hb).1 heq
  · intro first hfirst last hlast entry hentry horg hlt hgt
    have hfirst_org := (hmem first (List.mem_of_mem_head? hfirst)).2
    refine hsegment.whole entry (mem_entriesOf.mpr ⟨hentry, horg.trans hfirst_org⟩) ?_
    exact ⟨first, hfirst, last, hlast, hlt, hgt⟩

/-- The event changes neither the database nor the rows, and the loads at most by
one less, or by what the render shows. -/
theorem Viewed.of_same {s s' : AuditLogsPage} {entries : Nat} (h : Viewed s entries)
    (hstore : s'.store = s.store) (hlogs : s'.logs = s.logs)
    (hloaded : s'.loadedOrganizationId = s.loadedOrganizationId)
    (hnumber : s'.requestNumber = s.requestNumber) (hloads : s'.loads.Sublist s.loads) :
    Viewed s' entries := by
  refine ⟨hstore ▸ h.ids, ⟨h.requests.1.sublist (hloads.map _), fun l hl => ?_⟩, fun l hl => ?_,
    fun l hl => ?_, ?_⟩
  · rw [hnumber]
    exact h.requests.2 l (hloads.subset hl)
  · rw [hstore]
    exact h.listings l (hloads.subset hl)
  · rw [hnumber, hlogs, hloaded]
    exact h.offsets l (hloads.subset hl)
  · rcases h.held with ⟨hnil, hnone⟩ | ⟨organization_id, listing, hheld⟩
    · exact Or.inl ⟨hlogs.trans hnil, hloaded.trans hnone⟩
    · refine Or.inr ⟨organization_id, listing, ?_, hheld.entries, hloaded.trans hheld.loaded, ?_, ?_⟩
      · rw [hstore]
        exact hheld.snapshot
      · rw [hlogs]
        exact hheld.rows
      · rw [hstore, hlogs]
        exact hheld.newer

/-- A request that is sent asks for a first page, or in an up-to-date render for
the rows after those that the page holds. -/
theorem Viewed.load {s : AuditLogsPage} {entries : Nat} (h : Viewed s entries) {append : Bool}
    (happend : append = true → UpToDate s) : Viewed (s.load append) entries := by
  unfold AuditLogsPage.load
  split
  · exact h
  rename_i organizationId horg
  split
  swap
  · exact h
  refine ⟨h.ids, ⟨?_, ?_⟩, ?_, ?_, h.held.imp id ?_⟩
  · simp only [List.map_append, List.map_cons, List.map_nil]
    refine List.nodup_append.mpr ⟨h.requests.1, List.nodup_singleton _, ?_⟩
    intro request hrequest request' hrequest' heq
    obtain ⟨l, hl, rfl⟩ := List.mem_map.mp hrequest
    have hle := h.requests.2 l hl
    rw [List.mem_singleton.mp hrequest'] at heq
    omega
  · intro l hl
    rcases List.mem_append.mp hl with hl | hl
    · exact (h.requests.2 l hl).trans (Nat.le_succ _)
    · rw [List.mem_singleton.mp hl]
  · intro l hl listing hlisting
    rcases List.mem_append.mp hl with hl | hl
    · exact h.listings l hl listing hlisting
    · rw [List.mem_singleton.mp hl] at hlisting
      cases hlisting
  · intro l hl hnewest hoffset
    rcases List.mem_append.mp hl with hl | hl
    · have hle := h.requests.2 l hl
      simp only at hnewest
      omega
    · rw [List.mem_singleton.mp hl] at hoffset ⊢
      simp only at hoffset ⊢
      split at hoffset
      · next hclick =>
        rw [Bool.and_eq_true, decide_eq_true_eq] at hclick
        obtain ⟨hlength, hloaded⟩ := happend hclick.1
        rw [if_pos (by simpa using hclick)]
        exact ⟨hlength, hloaded ▸ hclick.2⟩
      · exact absurd rfl hoffset
  · rintro ⟨organization_id, listing, hheld⟩
    exact ⟨organization_id, listing, hheld.snapshot, hheld.entries, hheld.loaded, hheld.rows, hheld.newer⟩

theorem Viewed.runEffect {s : AuditLogsPage} {entries : Nat} (h : Viewed s entries) :
    Viewed s.runEffect entries := by
  unfold AuditLogsPage.runEffect
  split
  · exact (h.of_same rfl rfl rfl rfl (List.Sublist.refl _) :
      Viewed { s with effectDue := false } entries).load nofun
  · exact h

theorem Viewed.select {s : AuditLogsPage} {entries : Nat} (h : Viewed s entries)
    (organizationId : Option UUID) (canRead : Bool) :
    Viewed (s.select organizationId canRead) entries := by
  unfold AuditLogsPage.select
  split
  · exact h.of_same rfl rfl rfl rfl (List.Sublist.refl _)
  · exact h.runEffect.of_same rfl rfl rfl rfl (List.Sublist.refl _)

theorem NewerAfter.record {organization_id : UUID} {s : AuditLogsPage} {entry : AuditLog}
    {listing rows : List AuditLog} (h : NewerAfter organization_id s.store listing rows)
    (hnew : entry.organization_id = some organization_id → ∀ b ∈ rows, b.place < entry.place) :
    NewerAfter organization_id { s.store with audit_logs := s.store.audit_logs ++ [entry] } listing
      rows := by
  intro a ha hnot b hb
  obtain ⟨hmem, horg⟩ := mem_entriesOf.mp ha
  rcases List.mem_append.mp hmem with hold | hlast
  · exact h a (mem_entriesOf.mpr ⟨hold, horg⟩) hnot b hb
  · rw [List.mem_singleton.mp hlast] at horg ⊢
    exact hnew horg b hb

theorem Viewed.record {s : AuditLogsPage} {entries : Nat} (h : Viewed s entries) {entry : AuditLog}
    (hnewer : NewerThanSeen s entry) : Viewed (s.record entry) entries := by
  unfold AuditLogsPage.record
  split
  · exact h
  · next hfresh =>
    have hgrown : s.store.audit_logs <+: s.store.audit_logs ++ [entry] := List.prefix_append _ _
    refine ⟨?_, h.requests, fun l hl listing hlisting => ?_, h.offsets, h.held.imp id ?_⟩
    · refine h.ids.insert fun a ha heq => hfresh ?_
      exact List.any_eq_true.mpr ⟨a, ha, decide_eq_true heq⟩
    · obtain ⟨hsnapshot, hafter⟩ := h.listings l hl listing hlisting
      exact ⟨hsnapshot.grow hgrown, hafter.record (hnewer.2 l hl listing hlisting)⟩
    · rintro ⟨organization_id, listing, hheld⟩
      refine ⟨organization_id, listing, hheld.snapshot.grow hgrown, hheld.entries, hheld.loaded,
        hheld.rows, hheld.newer.record fun horg b hb => ?_⟩
      refine hnewer.1 b hb ?_
      rw [horg]
      exact (mem_entriesOf.mp ((hheld.segment h.ids).mem b hb)).2

theorem Viewed.queried {s : AuditLogsPage} {entries : Nat} (h : Viewed s entries) {k : Nat}
    {l : AuditLoad} (hl : s.loads[k]? = some l) :
    Viewed { s with loads := s.loads.set k (l.queried s.store) } entries := by
  have hsame : (l.queried s.store).request = l.request ∧ (l.queried s.store).offset = l.offset ∧
      (l.queried s.store).organizationId = l.organizationId := by
    unfold AuditLoad.queried
    split <;> exact ⟨rfl, rfl, rfl⟩
  have hmem := List.mem_of_getElem? hl
  have hrequests : (s.loads.set k (l.queried s.store)).map AuditLoad.request =
      s.loads.map AuditLoad.request := by
    obtain ⟨hlt, hget⟩ := List.getElem?_eq_some_iff.mp hl
    have hlt' : k < (s.loads.map AuditLoad.request).length := by rwa [List.length_map]
    have hget' : (s.loads.map AuditLoad.request)[k] = l.request := by rw [List.getElem_map, hget]
    rw [List.map_set, hsame.1, ← hget']
    exact List.set_getElem_self hlt'
  refine ⟨h.ids, ⟨by rw [hrequests]; exact h.requests.1, fun x hx => ?_⟩, fun x hx => ?_,
    fun x hx => ?_, h.held.imp id ?_⟩
  · rcases List.mem_or_eq_of_mem_set hx with hold | rfl
    · exact h.requests.2 x hold
    · rw [hsame.1]
      exact h.requests.2 l hmem
  · rcases List.mem_or_eq_of_mem_set hx with hold | rfl
    · exact h.listings x hold
    · rw [hsame.2.2]
      unfold AuditLoad.queried
      split
      · rintro listing ⟨⟩
        refine ⟨⟨_, List.prefix_refl _, rfl⟩, fun a ha hnot => absurd ?_ hnot⟩
        exact (auditLogsOf_listing l.organizationId s.store).perm.mem_iff.mpr ha
      · exact h.listings l hmem
  · rcases List.mem_or_eq_of_mem_set hx with hold | rfl
    · exact h.offsets x hold
    · rw [hsame.1, hsame.2.1, hsame.2.2]
      exact h.offsets l hmem
  · rintro ⟨organization_id, listing, hheld⟩
    exact ⟨organization_id, listing, hheld.snapshot, hheld.entries, hheld.loaded, hheld.rows, hheld.newer⟩

/-- An answer that is accepted begins the rows anew, or goes on where they end. -/
theorem Viewed.finishLoad {s : AuditLogsPage} {entries : Nat} (h : Viewed s entries) {k : Nat}
    {l : AuditLoad} {listing : List AuditLog} (hl : s.loads[k]? = some l)
    (hlisting : l.listing = some listing)
    (hturn : s.accepts l = true → l.offset ≠ 0 → listing.length = entries) :
    Viewed (AuditLogsPage.finishLoad l (page PAGE_SIZE l.offset listing)
        { s with loads := s.loads.eraseIdx k })
      (if s.accepts l = true ∧ l.offset = 0 then listing.length else entries) := by
  have hmem := List.mem_of_getElem? hl
  have hsub : (s.loads.eraseIdx k).Sublist s.loads := List.eraseIdx_sublist ..
  have hrest : Viewed { s with loads := s.loads.eraseIdx k } entries := h.of_same rfl rfl rfl rfl hsub
  have hsame : AuditLogsPage.accepts l { s with loads := s.loads.eraseIdx k } = s.accepts l := rfl
  unfold AuditLogsPage.finishLoad
  rw [hsame]
  by_cases haccepted : s.accepts l = true
  swap
  · rw [if_neg haccepted, if_neg fun hand => haccepted hand.1]
    exact hrest
  rw [if_pos haccepted]
  have hnewest : l.request = s.requestNumber := by
    unfold AuditLogsPage.accepts at haccepted
    simp only [Bool.and_eq_true, decide_eq_true_eq] at haccepted
    exact haccepted.1
  obtain ⟨hsnapshot, hafter⟩ := h.listings l hmem listing hlisting
  refine ⟨h.ids, hrest.requests, hrest.listings, ?_, Or.inr ⟨l.organizationId, listing, ?_⟩⟩
  · -- the newest request is the one that is answered now
    intro x hx hnumber
    obtain ⟨j, hj, hget⟩ := List.mem_eraseIdx_iff_getElem?.mp hx
    have hlt : k < (s.loads.map AuditLoad.request).length := by
      rw [List.length_map]
      exact (List.getElem?_eq_some_iff.mp hl).1
    refine absurd ((List.getElem?_inj hlt h.requests.1).mp ?_).symm hj
    rw [List.getElem?_map, List.getElem?_map, hl, hget, Option.map_some, Option.map_some, hnewest]
    exact congrArg some hnumber.symm
  by_cases hoffset : l.offset = 0
  · simp only [hoffset, ne_eq, not_true_eq_false, if_false, and_true, if_pos haccepted]
    refine ⟨hsnapshot, rfl, rfl, ?_, ?_⟩
    · exact (List.prefix_iff_eq_take.mp (List.take_prefix _ _) : List.take PAGE_SIZE listing = _)
    · exact fun a ha hnot b hb => hafter a ha hnot b (List.mem_of_mem_take hb)
  · obtain ⟨hlength, hloaded⟩ := h.offsets l hmem hnewest hoffset
    have hentries := hturn haccepted hoffset
    rcases h.held with ⟨hnil, _⟩ | ⟨organization_id, first, hheld⟩
    · exact absurd (hlength.trans (by rw [hnil]; rfl)) hoffset
    -- the listing is the one that the first page was taken from
    have horg : organization_id = l.organizationId := Option.some.inj (hheld.loaded.symm.trans hloaded)
    subst horg
    obtain rfl := hheld.snapshot.unique hsnapshot (hheld.entries.trans hentries.symm)
    have hrows : s.logs ++ page PAGE_SIZE l.offset first = first.take (l.offset + PAGE_SIZE) := by
      rw [List.take_add, page, hlength]
      exact congrArg (· ++ _) hheld.rows
    simp only [hoffset, ne_eq, not_false_eq_true, if_true, and_false, if_false, hrows]
    refine ⟨hsnapshot, hentries, rfl, ?_, ?_⟩
    · exact List.prefix_iff_eq_take.mp (List.take_prefix _ _)
    · exact fun a ha hnot b hb => hafter a ha hnot b (List.mem_of_mem_take hb)

theorem Viewed.step {organizationId : Option UUID} {canRead : Bool} {past : List AuditEvent}
    (h : Viewed (run.after auditStep (AuditLogsPage.opened organizationId canRead) past)
      (entriesAtFirstQuery organizationId canRead past)) {event : AuditEvent}
    (hturn : InTurn organizationId canRead past event) :
    Viewed (run.after auditStep (AuditLogsPage.opened organizationId canRead) (event :: past))
      (entriesAtFirstQuery organizationId canRead (event :: past)) := by
  rw [run.after_cons]
  cases event with
  | recorded entry => exact h.record hturn
  | select organizationId canRead => exact h.select organizationId canRead
  | render => exact h.of_same rfl rfl rfl rfl (List.Sublist.refl _)
  | effect => exact h.runEffect
  | refresh =>
    simp only [auditStep]
    split
    · exact h.load nofun
    · exact h
  | loadMore =>
    simp only [auditStep]
    split
    · exact h.load fun _ => hturn
    · exact h
  | queried k =>
    simp only [auditStep]
    split
    · exact h.queried ‹_›
    · exact h
  | answered k =>
    simp only [auditStep]
    split
    · next l hl =>
      cases hlisting : l.listing with
      | none =>
        simp only [AuditLoad.result, hlisting, Option.map_none, entriesAtFirstQuery, hl]
        exact h
      | some listing =>
        simp only [AuditLoad.result, hlisting, Option.map_some, entriesAtFirstQuery, hl]
        exact h.finishLoad hl hlisting (hturn l hl listing hlisting)
    · next hnone =>
      simp only [entriesAtFirstQuery, hnone]
      exact h
  | failed k => exact h.of_same rfl rfl rfl rfl (List.eraseIdx_sublist ..)

theorem viewed_opened (organizationId : Option UUID) (canRead : Bool) :
    Viewed (AuditLogsPage.opened organizationId canRead) 0 :=
  ⟨uniqueOn_nil _, ⟨List.nodup_nil, nofun⟩, nofun, nofun, Or.inl ⟨rfl, rfl⟩⟩

/-- The page of the audit log never holds an entry twice and leaves out none between
its first and its last one, in every run in which entries are recorded in the order of
their places, Load more is clicked in renders that are up to date, and no entry is
recorded between the query of the first page and that of a Load more. -/
theorem the_audit_page_shows_each_entry_once (organizationId : Option UUID) (canRead : Bool)
    (past : List AuditEvent) (h : run.Each (InTurn organizationId canRead) past) :
    ShowsOnce (run.after auditStep (AuditLogsPage.opened organizationId canRead) past) := by
  have hviewed : Viewed (run.after auditStep (AuditLogsPage.opened organizationId canRead) past)
      (entriesAtFirstQuery organizationId canRead past) := by
    induction past with
    | nil => exact viewed_opened organizationId canRead
    | cons event past ih => exact (ih h.1).step h.2
  exact hviewed.showsOnce

/-! ## An entry that is shown twice -/

def sampleEntry (n : Nat) : AuditLog :=
  ⟨n, some 20, none, .SERVICE_CREATED, [], none, none, none, [], n⟩

/-- Twenty-six entries, and the page that loads the first of them. -/
def firstPage : List AuditEvent :=
  [.render, .answered 0, .queried 0, .effect] ++
    (List.range 26).reverse.map fun n => .recorded (sampleEntry n)

/-- Load more. -/
def secondPage : List AuditEvent := [.answered 0, .queried 0, .loadMore] ++ firstPage

theorem two_pages_show_each_entry_once :
    ShowsOnce (run.after auditStep (AuditLogsPage.opened (some 20) true) secondPage) ∧
      (run.after auditStep (AuditLogsPage.opened (some 20) true) secondPage).logs.length = 26 :=
  ⟨the_audit_page_shows_each_entry_once (some 20) true secondPage (by decide +kernel),
    by decide +kernel⟩

/-- A new entry is recorded before the second page is loaded. -/
def shiftedPage : List AuditEvent :=
  [.answered 0, .queried 0, .loadMore, .recorded (sampleEntry 26)] ++ firstPage

theorem a_new_entry_makes_the_page_repeat_one :
    ¬ ShowsOnce (run.after auditStep (AuditLogsPage.opened (some 20) true) shiftedPage) := by
  intro h
  have hrepeated : ¬ ((run.after auditStep (AuditLogsPage.opened (some 20) true)
      shiftedPage).logs.map AuditLog.id).Nodup := by decide +kernel
  exact hrepeated h.once

end pulseforge
