import Mpango.Model.Exports
import Mpango.Reporting.Dashboard

/-!
# What an export serves

A completed job has executions of its own, and each has left a file with its metadata (`Sound`). What
the job serves is found by tenant, so it is its own exactly when no other job of the tenant has left
metadata; and the file is the job's query to its limit when the builder's cap of 10000 rows and the
conversion of decimals take nothing away (`Faithful`).
-/

namespace Mpango

namespace Reporting

/-! ## The rows of a query -/

/-- All rows of the query of a request, without a limit. -/
def queryRows (request : ExportRequest) (views : Views) : Option (List (List Value)) := do
  let dimColumns ← (request.dimensions.getD []).mapM fun d =>
    (registration request.view).dimensions.lookup d
  let metricColumns ← request.metrics.mapM fun m => (registration request.view).metrics.lookup m
  (withinDates request.view request.dateFrom request.dateTo (views request.view).rows).mapM
    fun row => (dimColumns ++ metricColumns).mapM fun column => row.lookup column

theorem mem_of_lookup {α β : Type} [BEq α] [LawfulBEq α] {xs : List (α × β)} {a : α} {b : β}
    (h : xs.lookup a = some b) : b ∈ xs.map (·.2) := by
  induction xs with
  | nil => cases h
  | cons x xs ih =>
    rw [List.lookup_cons] at h
    cases hx : a == x.1 with
    | true =>
      rw [hx] at h
      cases h
      exact List.mem_cons_self
    | false =>
      rw [hx] at h
      exact List.mem_cons_of_mem _ (ih h)

theorem mapM_take {α β : Type} {f : α → Option β} {xs : List α} {ys : List β}
    (h : xs.mapM f = some ys) (n : ℕ) : (xs.take n).mapM f = some (ys.take n) := by
  induction xs generalizing ys n with
  | nil =>
    obtain rfl : ys = [] := by simpa using h.symm
    simp
  | cons x xs ih =>
    rw [List.mapM_cons] at h
    obtain ⟨y, hy, hrest⟩ := Option.bind_eq_some_iff.mp h
    obtain ⟨ys', hys', heq⟩ := Option.bind_eq_some_iff.mp hrest
    cases heq
    cases n with
    | zero => rfl
    | succ n =>
      rw [List.take_succ_cons, List.take_succ_cons, List.mapM_cons, hy, ih hys']
      rfl

theorem mem_of_mapM {α β : Type} {f : α → Option β} {xs : List α} {ys : List β}
    (h : xs.mapM f = some ys) {y : β} (hy : y ∈ ys) : ∃ x ∈ xs, f x = some y := by
  induction xs generalizing ys with
  | nil =>
    obtain rfl : ys = [] := by simpa using h.symm
    cases hy
  | cons x xs ih =>
    rw [List.mapM_cons] at h
    obtain ⟨z, hz, hrest⟩ := Option.bind_eq_some_iff.mp h
    obtain ⟨zs, hzs, heq⟩ := Option.bind_eq_some_iff.mp hrest
    cases heq
    rcases List.mem_cons.mp hy with rfl | hy
    · exact ⟨x, List.mem_cons_self, hz⟩
    · obtain ⟨x', hx', hf⟩ := ih hzs hy
      exact ⟨x', List.mem_cons_of_mem _ hx', hf⟩

variable {asFloat : Decimal → Decimal}

/-- The handler writes the first rows of the query, to the lowest of three limits. -/
theorem exportRows_eq_some {request : ExportRequest} {views : Views} {rows : List (List Cell)}
    (h : exportRows asFloat request views = some rows) :
    ∃ all, queryRows request views = some all ∧
      rows = (all.take (min request.limit 10000)).map (·.map (serializeValue asFloat)) := by
  obtain ⟨values, hvalues, rfl⟩ := Option.map_eq_some_iff.mp h
  obtain ⟨dimColumns, hdims, hrest⟩ := Option.bind_eq_some_iff.mp hvalues
  obtain ⟨metricColumns, hmetrics, htaken⟩ := Option.bind_eq_some_iff.mp hrest
  have hregistered : ∀ column ∈ dimColumns ++ metricColumns,
      column ∈ (registration request.view).dimensions.map (·.2) ++
        (registration request.view).metrics.map (·.2) := by
    intro column hcolumn
    rcases List.mem_append.mp hcolumn with hcolumn | hcolumn
    · obtain ⟨d, -, hd⟩ := mem_of_mapM hdims hcolumn
      exact List.mem_append_left _ (mem_of_lookup hd)
    · obtain ⟨m, -, hm⟩ := mem_of_mapM hmetrics hcolumn
      exact List.mem_append_right _ (mem_of_lookup hm)
  obtain ⟨all, hall⟩ : ∃ all, (withinDates request.view request.dateFrom request.dateTo
      (views request.view).rows).mapM (fun row =>
        (dimColumns ++ metricColumns).mapM fun column => row.lookup column) = some all := by
    rw [mapM_isSome_iff]
    intro row hrow
    rw [mapM_isSome_iff]
    intro column hcolumn
    exact Option.isSome_iff_exists.mp ((views request.view).complete row
      (List.mem_of_mem_filter hrow) column (hregistered column hcolumn))
  have hlimit : min (min request.limit maxExportRows) 10000 = min request.limit 10000 := by
    have := request.limit_bounds.2
    simp only [maxExportRows]
    omega
  have hquery : queryRows request views = some all := by
    rw [queryRows, hdims, Option.bind_eq_bind, Option.bind_some, hmetrics]
    exact hall
  refine ⟨all, hquery, ?_⟩
  rw [hlimit, mapM_take hall] at htaken
  rw [Option.some.inj htaken]

namespace Execution

/-- The file holds the rows of the query to its limit, with their values. -/
def Exact (e : Execution) : Prop :=
  ∃ all, queryRows e.payload.request e.views = some all ∧
    e.rows = (all.take e.payload.request.limit).map (·.map (serializeValue id))

/-- The query has no more rows than the builder lets through, or was not to have more; and the
decimals in these are those their floats are printed as. -/
def Faithful (asFloat : Decimal → Decimal) (e : Execution) : Prop :=
  ∀ all, queryRows e.payload.request e.views = some all →
    (all.length ≤ 10000 ∨ e.payload.request.limit ≤ 10000) ∧
      ∀ row ∈ all.take (min e.payload.request.limit 10000), ∀ d : Numeric 20 4,
        .decimal d ∈ row → asFloat d.toDecimal = d.toDecimal

theorem serializeValue_eq_iff {v : Value} : serializeValue asFloat v = serializeValue id v ↔
    ∀ d, v = .decimal d → asFloat d.toDecimal = d.toDecimal := by
  cases v with
  | decimal d => simp [serializeValue]
  | count n => simp [serializeValue]
  | date d => simp [serializeValue]
  | instant t => simp [serializeValue]
  | text s => simp [serializeValue]
  | uuid u => simp [serializeValue]

/-- An execution is exact when it is faithful. -/
theorem exact_iff {e : Execution}
    (h : exportRows asFloat e.payload.request e.views = some e.rows) :
    e.Exact ↔ e.Faithful asFloat := by
  obtain ⟨all, hall, hrows⟩ := exportRows_eq_some h
  have hcells (rows : List (List Value)) :
      rows.map (·.map (serializeValue asFloat)) = rows.map (·.map (serializeValue id)) ↔
        ∀ row ∈ rows, ∀ d : Numeric 20 4, .decimal d ∈ row →
          asFloat d.toDecimal = d.toDecimal := by
    simp only [List.map_inj_left, serializeValue_eq_iff]
    refine forall₂_congr fun row _ => ?_
    exact ⟨fun h d hd => h _ hd d rfl, fun h v hv d heq => h d (heq ▸ hv)⟩
  simp only [Exact, Faithful, hall, Option.some.injEq, exists_eq_left', forall_eq']
  rw [hrows]
  constructor
  · intro heq
    have hlength := congrArg List.length heq
    simp only [List.length_map, List.length_take] at hlength
    have hcap : all.length ≤ 10000 ∨ e.payload.request.limit ≤ 10000 := by omega
    have htake : all.take e.payload.request.limit =
        all.take (min e.payload.request.limit 10000) := by
      rw [List.take_eq_take_iff]
      omega
    rw [htake] at heq
    exact ⟨hcap, (hcells _).mp heq⟩
  · rintro ⟨hcap, hdecimals⟩
    have htake : all.take e.payload.request.limit =
        all.take (min e.payload.request.limit 10000) := by
      rw [List.take_eq_take_iff]
      omega
    rw [htake]
    exact (hcells _).mpr hdecimals

end Execution

/-! ## The store -/

namespace ExportStore

variable {s : ExportStore} {jobId fileId : Uuid}

/-- Every execution has its file, its metadata and its job; a completed job has an execution. -/
structure Sound (asFloat : Decimal → Decimal) (s : ExportStore) : Prop where
  metadata : s.metadata = s.executions.map (·.metadata)
  file : ∀ e ∈ s.executions, s.files.find? e.fileId = some ⟨e.fileId, e.rows⟩
  unique : (s.executions.map (·.fileId)).Nodup
  rows : ∀ e ∈ s.executions, exportRows asFloat e.payload.request e.views = some e.rows
  job : ∀ e ∈ s.executions, ∃ job, s.jobs.find? e.jobId = some job ∧ job.payload = e.payload
  returned : ∀ job ∈ s.jobs, job.returned = true → ∃ e ∈ s.executions, e.jobId = job.id
  completed : ∀ job ∈ s.jobs, job.status = .completed → job.returned = true

theorem sound_empty : Sound asFloat empty where
  metadata := rfl
  file := List.forall_mem_nil _
  unique := List.nodup_nil
  rows := List.forall_mem_nil _
  job := List.forall_mem_nil _
  returned _ h := absurd h Table.not_mem_empty
  completed _ h := absurd h Table.not_mem_empty

/-- Writing a job back keeps the payloads of all jobs. -/
theorem exists_payload_set {jobs : Table ExportJob} {job : ExportJob} (job' : ExportJob)
    (hjob : jobs.find? job.id = some job) (hid : job'.id = job.id)
    (hpayload : job'.payload = job.payload) {id : Uuid} {p : ExportJobPayload}
    (h : ∃ old, jobs.find? id = some old ∧ old.payload = p) :
    ∃ new, (jobs.set job').find? id = some new ∧ new.payload = p := by
  obtain ⟨old, hold, hsame⟩ := h
  by_cases hk : id = job'.id
  · have heq : old = job := by
      rw [hk, hid, hjob] at hold
      exact (Option.some.inj hold).symm
    refine ⟨job', ?_, by rw [hpayload, ← heq, hsame]⟩
    rw [hk]
    have hkey : jobs.find? (key job') = some job := by
      rw [show key job' = job.id from hid, hjob]
    exact Table.find?_set_self hkey
  · exact ⟨old, by rw [Table.find?_set_of_ne hk, hold], hsame⟩

/-- A job may change its status, as long as it does not claim to have returned. -/
theorem Sound.setJob (h : Sound asFloat s) {job job' : ExportJob}
    (hjob : s.jobs.find? job.id = some job) (hid : job'.id = job.id)
    (hpayload : job'.payload = job.payload)
    (hreturned : job'.returned = true → job.returned = true)
    (hcompleted : job'.status = .completed → job'.returned = true) :
    Sound asFloat { s with jobs := s.jobs.set job' } where
  metadata := h.metadata
  file := h.file
  unique := h.unique
  rows := h.rows
  job := fun e he => exists_payload_set job' hjob hid hpayload (h.job e he)
  returned := by
    intro x hx hret
    rcases Table.mem_set.mp hx with ⟨hx, -⟩ | ⟨rfl, -⟩
    · exact h.returned x hx hret
    · obtain ⟨e, he, heq⟩ := h.returned job (Table.mem_of_find? hjob) (hreturned hret)
      exact ⟨e, he, heq.trans hid.symm⟩
  completed := by
    intro x hx hdone
    rcases Table.mem_set.mp hx with ⟨hx, -⟩ | ⟨rfl, -⟩
    · exact h.completed x hx hdone
    · exact hcompleted hdone

/-- A file without metadata does not matter. -/
theorem Sound.leaveFile (h : Sound asFloat s) {f : ExportFile} {files : Table ExportFile}
    (hfiles : s.files.insert? f = some files) : Sound asFloat { s with files } where
  metadata := h.metadata
  file := by
    intro e he
    rw [Table.find?_insert? hfiles]
    split
    · next hk =>
      have hnew := (Table.insert?_eq_some.mp hfiles).1
      rw [← hk, h.file e he] at hnew
      cases hnew
    · exact h.file e he
  unique := h.unique
  rows := h.rows
  job := h.job
  returned := h.returned
  completed := h.completed

theorem Sound.createExport (h : Sound asFloat s) (tenant : ExportTenant)
    (request : ExportRequest) : Sound asFloat (s.createExport jobId tenant request) := by
  rw [ExportStore.createExport]
  split
  · split
    · next jobs hjobs =>
      refine { h with job := ?_, returned := ?_, completed := ?_ }
      · intro e he
        obtain ⟨job, hjob, hsame⟩ := h.job e he
        refine ⟨job, ?_, hsame⟩
        rw [Table.find?_insert? hjobs]
        split
        · next hk =>
          have hnew := (Table.insert?_eq_some.mp hjobs).1
          rw [← hk, hjob] at hnew
          cases hnew
        · exact hjob
      · intro job hjob hret
        rcases (Table.mem_insert? hjobs).mp hjob with hjob | rfl
        · exact h.returned job hjob hret
        · cases hret
      · intro job hjob hdone
        rcases (Table.mem_insert? hjobs).mp hjob with hjob | rfl
        · exact h.completed job hjob hdone
        · cases hdone
    · exact h
  · exact h

theorem Sound.startJob (h : Sound asFloat s) : Sound asFloat (s.startJob jobId) := by
  rw [ExportStore.startJob]
  split
  · next job hjob =>
    obtain rfl := Table.key_of_find? hjob
    split
    · exact h.setJob hjob rfl rfl nofun nofun
    · exact h
  · exact h

theorem Sound.completeJob (h : Sound asFloat s) : Sound asFloat (s.completeJob jobId) := by
  rw [ExportStore.completeJob]
  split
  · next job hjob =>
    obtain rfl := Table.key_of_find? hjob
    split
    · next hrunning => exact h.setJob hjob rfl rfl id fun _ => hrunning.2
    · exact h
  · exact h

theorem Sound.raiseJob (h : Sound asFloat s) (leftover : Option ExportFile) :
    Sound asFloat (s.raiseJob jobId leftover) := by
  rw [ExportStore.raiseJob]
  split
  · next job hjob =>
    obtain rfl := Table.key_of_find? hjob
    split
    · let back : JobStatus := if job.attempts < job.maxRetries then .pending else .failed
      have hset : Sound asFloat { s with jobs := s.jobs.set { job with status := back } } := by
        refine h.setJob hjob rfl rfl id fun (hdone : back = .completed) => ?_
        by_cases hmore : job.attempts < job.maxRetries
        · rw [show back = .pending from if_pos hmore] at hdone
          cases hdone
        · rw [show back = .failed from if_neg hmore] at hdone
          cases hdone
      cases hfiles : leftover.bind s.files.insert? with
      | none => exact hset
      | some files =>
        obtain ⟨f, -, hinsert⟩ := Option.bind_eq_some_iff.mp hfiles
        exact hset.leaveFile hinsert
    · exact h
  · exact h

/-- A handler that returns leaves a new file with its metadata. -/
theorem Sound.returns (h : Sound asFloat s) {job : ExportJob} {views : Views}
    {rows : List (List Cell)} {files : Table ExportFile} (hjob : s.jobs.find? job.id = some job)
    (hrows : exportRows asFloat job.payload.request views = some rows)
    (hfiles : s.files.insert? ⟨fileId, rows⟩ = some files) :
    Sound asFloat
      { jobs := s.jobs.set { job with returned := true }
        files
        metadata := s.metadata ++
          [(⟨job.id, fileId, job.payload, views, rows⟩ : Execution).metadata]
        executions := s.executions ++ [⟨job.id, fileId, job.payload, views, rows⟩] } := by
  have hnew : ∀ e ∈ s.executions, e.fileId ≠ fileId := by
    rintro e he rfl
    have hfree := (Table.insert?_eq_some.mp hfiles).1
    rw [show key (⟨e.fileId, rows⟩ : ExportFile) = e.fileId from rfl, h.file e he] at hfree
    cases hfree
  refine ⟨?_, ?_, ?_, ?_, ?_, ?_, ?_⟩
  · rw [List.map_append, h.metadata, List.map_singleton]
  · rw [List.forall_mem_append, List.forall_mem_singleton]
    refine ⟨fun e he => ?_, ?_⟩
    · exact (Table.find?_insert? hfiles _).trans ((if_neg (hnew e he)).trans (h.file e he))
    · exact Table.find?_key ((Table.mem_insert? hfiles).mpr (.inr rfl))
  · rw [List.map_append, List.map_singleton, List.nodup_append']
    refine ⟨h.unique, List.nodup_singleton _, ?_⟩
    rw [List.disjoint_singleton, List.mem_map]
    rintro ⟨e, he, heq⟩
    exact hnew e he heq
  · rw [List.forall_mem_append, List.forall_mem_singleton]
    exact ⟨h.rows, hrows⟩
  · rw [List.forall_mem_append, List.forall_mem_singleton]
    have hkept {id : Uuid} {p : ExportJobPayload} :=
      @exists_payload_set s.jobs job { job with returned := true } hjob rfl rfl id p
    exact ⟨fun e he => hkept (h.job e he), hkept ⟨job, hjob, rfl⟩⟩
  · intro x hx hret
    rcases Table.mem_set.mp hx with ⟨hx, -⟩ | ⟨rfl, -⟩
    · obtain ⟨e, he, heq⟩ := h.returned x hx hret
      exact ⟨e, List.mem_append_left _ he, heq⟩
    · exact ⟨_, List.mem_append_right _ (List.mem_singleton_self _), rfl⟩
  · intro x hx hdone
    rcases Table.mem_set.mp hx with ⟨hx, -⟩ | ⟨rfl, -⟩
    · exact h.completed x hx hdone
    · rfl

theorem Sound.handleJob (h : Sound asFloat s) (views : Views) :
    Sound asFloat (s.handleJob asFloat jobId fileId views) := by
  rw [ExportStore.handleJob]
  split
  · next job hjob =>
    obtain rfl := Table.key_of_find? hjob
    split
    · split
      · next rows hrows =>
        split
        · next files hfiles => exact h.returns hjob hrows hfiles
        · exact h
      · exact h
    · exact h
  · exact h

theorem Sound.step (h : Sound asFloat s) (event : ExportEvent) :
    Sound asFloat (s.step asFloat event) := by
  cases event with
  | create jobId tenant request => exact h.createExport tenant request
  | start jobId => exact h.startJob
  | handle jobId fileId views => exact h.handleJob views
  | complete jobId => exact h.completeJob
  | raise jobId leftover => exact h.raiseJob leftover

theorem Sound.run (h : Sound asFloat s) (events : List ExportEvent) :
    Sound asFloat (events.foldl (ExportStore.step asFloat) s) := by
  induction events generalizing s with
  | nil => exact h
  | cons event events ih => exact ih (h.step event)

/-! ## What is found -/

theorem Sound.find_mem (h : Sound asFloat s) {listing : List Metadata}
    (hlisting : listing.Perm s.metadata) {tenantId : Uuid} {m : Metadata}
    (hm : s.findJobMetadata listing tenantId = some m) :
    ∃ e ∈ s.executions, e.metadata = m ∧ e.payload.tenantId = tenantId := by
  have hmem := hlisting.mem_iff.mp (List.mem_of_find?_eq_some hm)
  rw [h.metadata] at hmem
  obtain ⟨e, he, rfl⟩ := List.mem_map.mp hmem
  have hfound := List.find?_some hm
  simp only [decide_eq_true_eq] at hfound
  exact ⟨e, he, rfl, hfound.1⟩

/-- Metadata of the tenant is found, if there is any. -/
theorem Sound.exists_find (h : Sound asFloat s) {listing : List Metadata}
    (hlisting : listing.Perm s.metadata) {e : Execution} (he : e ∈ s.executions) :
    ∃ m, s.findJobMetadata listing e.payload.tenantId = some m := by
  rw [← Option.isSome_iff_exists, findJobMetadata, List.find?_isSome]
  refine ⟨e.metadata, ?_, ?_⟩
  · rw [hlisting.mem_iff, h.metadata]
    exact List.mem_map_of_mem he
  · have hfile : s.files.find? e.metadata.fileId = some ⟨e.fileId, e.rows⟩ := h.file e he
    rw [hfile]
    simp [Execution.metadata]

/-- The directory may be listed with the metadata of any execution first. -/
theorem Sound.exists_listing (h : Sound asFloat s) {e : Execution} (he : e ∈ s.executions) :
    ∃ listing, listing.Perm s.metadata ∧
      s.findJobMetadata listing e.payload.tenantId = some e.metadata := by
  have hmem : e.metadata ∈ s.metadata := by
    rw [h.metadata]
    exact List.mem_map_of_mem he
  obtain ⟨before, after, hsplit⟩ := List.append_of_mem hmem
  refine ⟨e.metadata :: (before ++ after), ?_, ?_⟩
  · rw [hsplit]
    exact List.perm_middle.symm
  · have hfile : s.files.find? e.metadata.fileId = some ⟨e.fileId, e.rows⟩ := h.file e he
    rw [findJobMetadata, List.find?_cons_of_pos]
    rw [hfile]
    simp [Execution.metadata]

/-- An execution of a job is one of its tenant. -/
theorem Sound.tenant_eq (h : Sound asFloat s) {job : ExportJob} (hjob : job ∈ s.jobs)
    {e : Execution} (he : e ∈ s.executions) (hid : e.jobId = job.id) :
    e.payload.tenantId = job.payload.tenantId := by
  obtain ⟨job', hjob', hsame⟩ := h.job e he
  have hfind : s.jobs.find? job.id = some job := Table.find?_key hjob
  rw [hid, hfind] at hjob'
  rw [← hsame, Option.some.inj hjob']

/-- A completed job serves the file of the execution whose metadata is found. -/
theorem Sound.download_eq (h : Sound asFloat s) {job : ExportJob} (hjob : job ∈ s.jobs)
    (hdone : job.status = .completed) {listing : List Metadata} {e : Execution}
    (he : e ∈ s.executions)
    (hfound : s.findJobMetadata listing job.payload.tenantId = some e.metadata) :
    s.downloadExport listing job.payload.tenantId job.id = .file ⟨e.fileId, e.rows⟩ ∧
      s.getExportStatus listing job.payload.tenantId job.id =
        some ⟨.completed, some e.rows.length⟩ := by
  have hfind : s.jobs.find? job.id = some job := Table.find?_key hjob
  have hfile : s.files.find? e.metadata.fileId = some ⟨e.fileId, e.rows⟩ := h.file e he
  constructor
  · simp only [downloadExport, hfind, hdone, hfound, hfile, ne_eq, not_true, if_false]
  · simp only [getExportStatus, hfind, hdone, hfound, ne_eq, not_true, if_false, if_true]
    rfl

/-! ## The law -/

/-- Every completed job serves what an execution of its own has written, and that is the rows of its
query, to its limit, with their values. -/
def ServesOwn (s : ExportStore) : Prop :=
  ∀ job ∈ s.jobs, job.status = .completed → ∀ listing, listing.Perm s.metadata →
    ∃ e ∈ s.executions, e.jobId = job.id ∧
      s.downloadExport listing job.payload.tenantId job.id = .file ⟨e.fileId, e.rows⟩ ∧
      s.getExportStatus listing job.payload.tenantId job.id =
        some ⟨.completed, some e.rows.length⟩ ∧
      e.Exact

/-- Where a completed job is, no other job of its tenant has been handled, and what its own
executions wrote was not cut short nor changed by the conversion. -/
def Undisturbed (asFloat : Decimal → Decimal) (s : ExportStore) : Prop :=
  ∀ job ∈ s.jobs, job.status = .completed →
    (∀ e ∈ s.executions, e.payload.tenantId = job.payload.tenantId → e.jobId = job.id) ∧
      ∀ e ∈ s.executions, e.jobId = job.id → e.Faithful asFloat

/-- In every state of every run, completed jobs serve their own results exactly when they are
undisturbed. -/
theorem serves_own (events : List ExportEvent) :
    ServesOwn (events.foldl (step asFloat) empty) ↔
      Undisturbed asFloat (events.foldl (step asFloat) empty) := by
  have hsound : Sound asFloat (events.foldl (step asFloat) empty) := sound_empty.run events
  generalize events.foldl (step asFloat) empty = s at hsound
  constructor
  · intro hserves job hjob hdone
    -- Any execution of the tenant may be served, so it is one of the job, and exact.
    have hserved : ∀ e ∈ s.executions, e.payload.tenantId = job.payload.tenantId →
        e.jobId = job.id ∧ e.Exact := by
      intro e he htenant
      obtain ⟨listing, hlisting, hfound⟩ := hsound.exists_listing he
      rw [htenant] at hfound
      obtain ⟨e', he', hown, hfile, -, hexact⟩ := hserves job hjob hdone listing hlisting
      have hsame := (hsound.download_eq hjob hdone he hfound).1.symm.trans hfile
      have hid : e.fileId = e'.fileId := by
        injection hsame with hsame
        exact congrArg ExportFile.fileId hsame
      obtain rfl : e = e' := List.inj_on_of_nodup_map hsound.unique he he' hid
      exact ⟨hown, hexact⟩
    refine ⟨fun e he htenant => (hserved e he htenant).1, fun e he hown => ?_⟩
    have htenant := hsound.tenant_eq hjob he hown
    exact (Execution.exact_iff (hsound.rows e he)).mp (hserved e he htenant).2
  · intro hundisturbed job hjob hdone listing hlisting
    obtain ⟨hown, hfaithful⟩ := hundisturbed job hjob hdone
    obtain ⟨e₀, he₀, hid₀⟩ := hsound.returned job hjob (hsound.completed job hjob hdone)
    obtain ⟨m, hm⟩ := hsound.exists_find hlisting he₀
    rw [hsound.tenant_eq hjob he₀ hid₀] at hm
    obtain ⟨e, he, rfl, htenant⟩ := hsound.find_mem hlisting hm
    have hid := hown e he htenant
    obtain ⟨hfile, hstatus⟩ := hsound.download_eq hjob hdone he hm
    exact ⟨e, he, hid, hfile, hstatus,
      (Execution.exact_iff (hsound.rows e he)).mpr (hfaithful e he hid)⟩

/-- A request for one metric of a view. -/
def oneMetric (view : ViewScope) (metric : ReportMetric) : ExportRequest where
  view
  metrics := [metric]
  dimensions := none
  dateFrom := none
  dateTo := none
  format := .csv
  limit := 50000
  metrics_length := by simp
  dimensions_length := nofun
  limit_bounds := by simp

/-- Views without rows. -/
def noRows : Views := fun _ => ⟨[], nofun⟩

/-- Two jobs of one tenant, one after the other. -/
def twoExports : List ExportEvent :=
  [.create 1 ⟨7, 8⟩ (oneMetric .salesDaily .revenue), .start 1, .handle 1 101 noRows, .complete 1,
    .create 2 ⟨7, 9⟩ (oneMetric .receivablesSummary .outstandingBalance), .start 2,
    .handle 2 102 noRows, .complete 2]

def ExportAnswer.fileId? : ExportAnswer → Option Uuid
  | .file f => some f.fileId
  | _ => none

/-- The second job is given the file of the first. -/
theorem serves_own_broken_twoExports : ¬ServesOwn (twoExports.foldl (step id) empty) := by
  intro h
  have hjobs : (twoExports.foldl (step id) empty).jobs.rows.map
      (fun j => (j.id, j.status, j.payload.tenantId)) = [(1, .completed, 7), (2, .completed, 7)] := by
    decide +kernel
  have hexecutions : (twoExports.foldl (step id) empty).executions.map
      (fun e => (e.jobId, e.fileId)) = [(1, 101), (2, 102)] := by decide +kernel
  have hdownload : ((twoExports.foldl (step id) empty).downloadExport
      (twoExports.foldl (step id) empty).metadata 7 2).fileId? = some 101 := by decide +kernel
  generalize twoExports.foldl (step id) empty = s at h hjobs hexecutions hdownload
  have hsecond : ((2, .completed, 7) : Uuid × JobStatus × Uuid) ∈
      s.jobs.rows.map fun j => (j.id, j.status, j.payload.tenantId) := by
    rw [hjobs]
    simp
  obtain ⟨job, hjob, heq⟩ := List.mem_map.mp hsecond
  simp only [Prod.mk.injEq] at heq
  obtain ⟨hid, hdone, htenant⟩ := heq
  obtain ⟨e, he, hown, hfile, -⟩ := h job hjob hdone _ (List.Perm.refl _)
  rw [htenant, hid] at hfile
  rw [hfile] at hdownload
  have hpair : (e.jobId, e.fileId) ∈ s.executions.map fun e => (e.jobId, e.fileId) :=
    List.mem_map_of_mem he
  have hfirst : e.fileId = 101 := Option.some.inj hdownload
  rw [hexecutions, hown, hid, hfirst] at hpair
  revert hpair
  decide

end ExportStore

end Reporting

end Mpango
