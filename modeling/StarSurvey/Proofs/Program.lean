import StarSurvey.Program
import StarSurvey.Proofs.Console
import StarSurvey.Proofs.Survey

/-!
# A run gives all or nothing

A run ends well if and only if the arguments and the settings are accepted, a client can be built, a
node gives a record and the file of the output can be replaced (`runFrom_all_or_nothing`). Then this
file has the snapshot of the records and the console counts the same records. If not, the files are
as they were and there is no summary.
-/

namespace StarSurvey

namespace Program

open CommandLine (Arguments)

/-- A run goes by these arguments and settings: its variables can be had, its command line can be read,
and both lead to the settings. -/
def Accepts (m : Machine) (a : Arguments) (s : Settings) : Prop :=
  ∃ vars, environment m = .ok vars ∧
    CommandLine.read (programName :: m.arguments) = .ok a ∧ settings m vars a = .ok s

/-- What a run with these arguments turns to. -/
def contacts (m : Machine) (a : Arguments) : List Contact :=
  Network.contacts m.network.nodes a.addresses

/-- The outcomes that come in during a run, in the order of their arrival. -/
def came (arrival : Arrival) (m : Machine) (a : Arguments) (s : Settings) : List Outcome :=
  Collection.outcomes arrival m.network.link (contacts m a) s.maxInFlight

/-- All that a run needs once its arguments and settings are accepted. -/
structure Feasible (m : Machine) (a : Arguments) (s : Settings) (l : Location) : Prop where
  /-- The client can be built. -/
  client : isUserAgent s.userAgent = true
  /-- A node gives a record. -/
  record : ∃ c ∈ contacts m a, ∃ r, c.fetch m.network.link = .ok r
  /-- The snapshot can be written. -/
  output : m.tree.CanReplace s.output l

variable {arrival : Arrival} {m : Machine} {vars : Environment} {a : Arguments} {s : Settings}
  {l : Location}

/-- A run whose variables cannot be had ends at once. -/
theorem runFrom_of_environment_error {f : Startup.Fault} (h : environment m = .error f) :
    runFrom arrival m = ⟨.error (.unstarted f), { room := m.room }, m.tree, []⟩ := by
  simp only [runFrom, h]

/-- A fault of loading is a fault of the settings. -/
theorem settings_of_load_error {g : Settings.LoadFault}
    (h : Settings.load m.tree a.config (vars.lookup Settings.fileVariable) = .error g) :
    settings m vars a = .error (.unloaded g) := by
  simp only [settings, h]
  rfl

/-- Settings are turned down because they cannot be loaded or because they are not valid. -/
theorem settings_error_cases {f : Fault} (h : settings m vars a = .error f) :
    (∃ g, f = .unloaded g) ∨ ∃ i, f = .invalid i := by
  cases hload : Settings.load m.tree a.config (vars.lookup Settings.fileVariable) with
  | error g =>
    rw [settings_of_load_error hload] at h
    cases h
    exact .inl ⟨g, rfl⟩
  | ok loaded =>
    simp only [settings, hload, Except.mapError, bind, Except.bind] at h
    split at h
    · cases h
      exact .inr ⟨_, rfl⟩
    · cases h

/-- A run without settings ends at once. -/
theorem runFrom_of_settings_error {f : Fault} (hvars : environment m = .ok vars)
    (hread : CommandLine.read (programName :: m.arguments) = .ok a)
    (h : settings m vars a = .error f) :
    runFrom arrival m = ⟨.error f, { room := m.room }, m.tree, []⟩ := by
  simp only [runFrom, hvars, hread, h]

/-- What is rejected is rejected at once. -/
theorem runFrom_of_rejected (h : ¬ ∃ a s, Accepts m a s)
    (hhelp : ∀ name, CommandLine.read (programName :: m.arguments) ≠ .error (.help name))
    (hversion : CommandLine.read (programName :: m.arguments) ≠ .error .version) :
    (runFrom arrival m).exitCode ≠ 0 ∧ (runFrom arrival m).tree = m.tree ∧
      (runFrom arrival m).output = [] ∧ (runFrom arrival m).requests = [] := by
  cases hvars : environment m with
  | error f =>
    rw [runFrom_of_environment_error hvars]
    exact ⟨Nat.succ_ne_zero 100, rfl, rfl, rfl⟩
  | ok vars =>
    cases hread : CommandLine.read (programName :: m.arguments) with
    | error stop =>
      have hcode : stop.exitCode ≠ 0 := by
        cases stop with
        | help name => exact absurd hread (hhelp name)
        | version => exact absurd hread hversion
        | _ => exact Nat.succ_ne_zero 1
      simp only [runFrom, hvars, hread, Ending.exitCode, Fault.exitCode, Ending.output, if_neg hcode]
      exact ⟨hcode, trivial, trivial, trivial⟩
    | ok a =>
      cases hset : settings m vars a with
      | error f =>
        rw [runFrom_of_settings_error hvars hread hset]
        obtain ⟨g, rfl⟩ | ⟨i, rfl⟩ := settings_error_cases hset
        · exact ⟨Nat.succ_ne_zero 0, rfl, rfl, rfl⟩
        · exact ⟨Nat.succ_ne_zero 0, rfl, rfl, rfl⟩
      | ok s => exact absurd ⟨a, s, vars, hvars, hread, hset⟩ h

/-- What is accepted is for the survey. -/
theorem runFrom_of_accepted (ha : Accepts m a s) :
    runFrom arrival m =
      let r := Survey.runFrom arrival m.network.link (contacts m a) s m.tree Console.report
        { room := m.room }
      match r.result with
      | .error f => ⟨.error (.survey f), r.observed, r.tree, r.requests⟩
      | .ok found =>
        ⟨if (r.observed.summary found.stats).2 then .ok () else .error .unprinted,
          (r.observed.summary found.stats).1, r.tree, r.requests⟩ := by
  obtain ⟨vars, hvars, hread, hset⟩ := ha
  simp only [runFrom, hvars, hread, hset, contacts]
  rfl

/-- What is accepted and has all that a run needs ends well. -/
theorem runFrom_of_feasible (hc : arrival.Complete) (hroom : m.room = none) (ha : Accepts m a s)
    (hl : ∀ n, s.maxInFlight = some n → n ≤ maxPermits) (hf : Feasible m a s l) :
    let records := (came arrival m a s).filterMap Outcome.record?
    ∃ snapshot, Snapshot.ofRecords? records = some snapshot ∧ snapshot.systems = records ∧
      snapshot.nodeCount = records.length ∧
      (runFrom arrival m).exitCode = 0 ∧
      (runFrom arrival m).tree =
        m.tree.set l (.file FileTree.readableMode snapshot.fileBytes) ∧
      (runFrom arrival m).output = Console.nodeLines (came arrival m a s) ++
        Text.bytes (Stats.ofRecords records).summary := by
  intro records
  have hne : records ≠ [] := (Collection.records_ne_nil_iff hc _ _ _).mpr hf.record
  obtain ⟨snapshot, hsnap, hsystems, hcount⟩ := Snapshot.exists_ofRecords? hne
  have hsave : snapshot.save m.tree s.output =
      (m.tree.set l (.file FileTree.readableMode snapshot.fileBytes), .ok ()) :=
    FileTree.replace_of_canReplace hf.output snapshot.fileBytes
  let blank : Console := { room := m.room }
  have hreport := Console.foldl_report (c := blank) hroom (came arrival m a s)
  have hsummary := Console.summary_of_endless (c := blank.plus (Console.nodeLines
    (came arrival m a s))) hroom (Stats.ofRecords records)
  have hrun : runFrom arrival m =
      ⟨.ok (), blank.plus (Console.nodeLines (came arrival m a s) ++
          Text.bytes (Stats.ofRecords records).summary),
        m.tree.set l (.file FileTree.readableMode snapshot.fileBytes),
        StarSurvey.requests m.network.link s.userAgent (contacts m a)⟩ := by
    rw [runFrom_of_accepted ha, Survey.runFrom_of_snapshot hc hl _ _ _ hf.client hsnap, hsave]
    show (⟨if (((came arrival m a s).foldl Console.report blank).summary
        (Stats.ofRecords records)).2 then _ else _,
      (((came arrival m a s).foldl Console.report blank).summary (Stats.ofRecords records)).1,
      _, _⟩ : Ending) = _
    rw [hreport, hsummary, Console.plus_plus]
    rfl
  rw [hrun]
  exact ⟨snapshot, hsnap, hsystems, hcount, rfl, rfl, rfl⟩

/-- What is accepted and lacks something leaves the files alone. -/
theorem runFrom_of_not_feasible (hc : arrival.Complete) (hroom : m.room = none)
    (ha : Accepts m a s) (hl : ∀ n, s.maxInFlight = some n → n ≤ maxPermits)
    (hf : ¬ ∃ l, Feasible m a s l) :
    (runFrom arrival m).exitCode ≠ 0 ∧ (runFrom arrival m).tree = m.tree ∧
      (runFrom arrival m).output =
        if isUserAgent s.userAgent then Console.nodeLines (came arrival m a s) else [] := by
  rw [runFrom_of_accepted ha]
  by_cases hclient : isUserAgent s.userAgent = true
  · have hreport := Console.foldl_report (c := { room := m.room }) hroom (came arrival m a s)
    rw [if_pos hclient]
    by_cases hr : (came arrival m a s).filterMap Outcome.record? = []
    · rw [Survey.runFrom_of_no_record hc hl _ _ _ hclient hr]
      refine ⟨Nat.succ_ne_zero 0, rfl, ?_⟩
      show (List.foldl Console.report _ (came arrival m a s)).written = _
      rw [hreport]
      rfl
    · have hrecord := (Collection.records_ne_nil_iff hc _ _ _).mp hr
      obtain ⟨snapshot, hsnap, -, -⟩ := Snapshot.exists_ofRecords? hr
      have hfull : ¬ ∃ l, m.tree.CanReplace s.output l := by
        rintro ⟨l, hl⟩
        exact hf ⟨l, hclient, hrecord, hl⟩
      obtain ⟨fault, hsave⟩ := FileTree.replace_of_not_canReplace hfull snapshot.fileBytes
      rw [Survey.runFrom_of_snapshot hc hl _ _ _ hclient hsnap, Snapshot.save, hsave]
      refine ⟨Nat.succ_ne_zero 0, rfl, ?_⟩
      show (List.foldl Console.report _ (came arrival m a s)).written = _
      rw [hreport]
      rfl
  · rw [if_neg hclient, Survey.runFrom_of_noClient _ _ _ (Bool.eq_false_iff.mpr hclient)]
    exact ⟨Nat.succ_ne_zero 0, rfl, rfl⟩

end Program

end StarSurvey
