import StarSurvey.Proofs.Program
import StarSurvey.Proofs.Settings

/-!
# Which settings a run goes by

- **The variables** (`Startup.lookup_environment`): a variable of the process keeps its value, whatever
  the file of variables says.
- **The file** (`Settings.source_cases`): which file is consulted, and whether it has to be there.
- **The settings** (`Program.settings_eq_ok_iff`): what the command line says goes over what the file
  says, and this over the defaults; both have to be valid.
- **The run** (`Program.runFrom_resolves_the_settings`): a survey is started with these settings, or the
  run ends with a fault and no request.
-/

namespace StarSurvey

/-! ## Variables -/

/-- Lines leave the variables that are there alone. -/
theorem Environment.lookup_addLines {process earlier vars : Environment}
    {lines : List (Option (List Char))} (h : addLines process earlier lines = .ok vars)
    {name value : String} (hvalue : process.lookup name = some value) :
    vars.lookup name = some value := by
  fun_induction addLines process earlier lines with
  | case1 process earlier line lines set assigned hline hset ih => exact ih h hvalue
  | case2 => cases h
  | case3 process earlier line lines set assigned hline hset hzero ih =>
    -- the line is about a variable that was not there, so about another one
    have hne : name ≠ set := by
      rintro rfl
      exact hset (Option.isSome_of_eq_some hvalue)
    refine ih h ?_
    rwa [List.lookup_cons, beq_false_of_ne hne]
  | case4 process earlier line lines hline ih => exact ih h hvalue
  | case5 =>
    cases h
    exact hvalue
  | case6 =>
    cases h
    exact hvalue

/-- The variables can be had if those of the process leave the number of threads open or ask for some,
and what the file says, if there is one, can be added to them. -/
theorem Startup.environment_eq_ok_iff {e vars : Environment} {t : FileTree} :
    environment e t = .ok vars ↔ checkThreads e = .ok () ∧
      match fileContent? t with
      | none => vars = e
      | some content => e.addFile content = .ok vars := by
  unfold environment
  rw [bind_eq_ok_iff, Unique.exists_iff]
  refine and_congr_right fun _ => ?_
  cases fileContent? t with
  | none => exact ⟨fun h => (Except.ok.inj h).symm, congrArg Except.ok ∘ Eq.symm⟩
  | some content => exact mapError_eq_ok_iff

/-- A variable of the process keeps its value. -/
theorem Startup.lookup_environment {e vars : Environment} {t : FileTree}
    (h : environment e t = .ok vars) {name value : String} (hvalue : e.lookup name = some value) :
    vars.lookup name = some value := by
  obtain ⟨-, h⟩ := environment_eq_ok_iff.mp h
  cases hcontent : fileContent? t with
  | none =>
    rw [hcontent] at h
    rwa [h]
  | some content =>
    rw [hcontent] at h
    exact Environment.lookup_addLines h hvalue

/-! ## Settings -/

/-- The file that is named on the command line, else the one that a variable names unless it is blank,
has to be there; if there is neither, the file of the program is consulted and need not be there. -/
theorem Settings.source_cases (explicit named : Option String) :
    (∀ path, explicit = some path → source explicit named = (path, true)) ∧
    (∀ path, explicit = none → named = some path → Text.isAllBlank path = false →
      source explicit named = (path, true)) ∧
    (explicit = none → (∀ path, named = some path → Text.isAllBlank path = true) →
      source explicit named = (defaultFile, false)) := by
  refine ⟨?_, ?_, ?_⟩
  · rintro path rfl
    rfl
  · rintro path rfl rfl hblank
    simp [source, hblank]
  · rintro rfl hblank
    cases named with
    | none => rfl
    | some path => simp [source, hblank path rfl]

/-- What the command line says about the settings. -/
def CommandLine.Arguments.layer (a : Arguments) : Settings.Layer where
  output := a.output
  timeoutSecs := a.timeoutSecs
  maxInFlight := a.maxInFlight

theorem CommandLine.Arguments.applyTo_eq (a : Arguments) (s : Settings) :
    a.applyTo s = a.layer.applyTo s := rfl

namespace Program

open CommandLine (Arguments)
open Settings (Layer FileSays)

/-- A survey was started: the run ended well, with a fault of the survey, or with a summary that did
not get through. -/
def Ending.Surveyed (e : Ending) : Prop :=
  e.result = .ok () ∨ e.result = .error .unprinted ∨ ∃ f, e.result = .error (.survey f)

/-- The file that a run consults, and whether it has to be there. -/
def consulted (vars : Environment) (a : Arguments) : String × Bool :=
  Settings.source a.config (vars.lookup Settings.fileVariable)

variable {arrival : Arrival} {m : Machine} {vars : Environment} {a : Arguments} {s : Settings}

/-- A run has settings if and only if the file that it consults says something, this is valid over
the defaults, and so is the command line over both. -/
theorem settings_eq_ok_iff :
    settings m vars a = .ok s ↔ ∃ l, FileSays m.tree (consulted vars a) l ∧ (l.applyTo .default).IsValid ∧
      s = a.layer.applyTo (l.applyTo .default) ∧ s.IsValid := by
  unfold settings
  rw [bind_eq_ok_iff]
  simp only [mapError_eq_ok_iff, Settings.load_eq_ok_iff]
  constructor
  · rintro ⟨_, ⟨l, hl, rfl, hloaded⟩, hcheck⟩
    obtain ⟨hs, hvalid⟩ := (Settings.check_eq_ok_iff Fault.invalid).mp hcheck
    exact ⟨l, hl, hloaded, hs, hvalid⟩
  · rintro ⟨l, hl, hloaded, hs, hvalid⟩
    exact ⟨_, ⟨l, hl, rfl, hloaded⟩, (Settings.check_eq_ok_iff Fault.invalid).mpr ⟨hs, hvalid⟩⟩

/-- What is accepted is surveyed. -/
theorem surveyed_of_accepted (ha : Accepts m a s) : (runFrom arrival m).Surveyed := by
  rw [runFrom_of_accepted ha, Ending.Surveyed]
  simp only
  split
  · exact .inr (.inr ⟨_, rfl⟩)
  · simp only
    split_ifs
    · exact .inl rfl
    · exact .inr (.inl rfl)

/-- What is accepted has the files, the requests and the faults of its survey. -/
theorem runFrom_eq_survey_of_accepted (ha : Accepts m a s) :
    let e := runFrom arrival m
    let r := Survey.runFrom arrival m.network.link (contacts m a) s m.tree Console.report
      { room := m.room }
    e.tree = r.tree ∧ e.requests = r.requests ∧
      ∀ f, e.result = .error (.survey f) ↔ r.result = .error f := by
  intro e r
  have he : e = _ := runFrom_of_accepted ha
  rw [he]
  show _ ∧ _ ∧ ∀ f, _ ↔ r.result = .error f
  cases hr : r.result with
  | error f => simp [r, hr]
  | ok found =>
    refine ⟨?_, ?_, fun f => ?_⟩
    · simp [r, hr]
    · simp [r, hr]
    · simp only [r, hr]
      split_ifs <;> simp

/-- The settings of a run whose file says something. -/
theorem settings_eq_of_fileSays {l : Layer} (hl : FileSays m.tree (consulted vars a) l)
    (h : settings m vars a = .ok s) : s = a.layer.applyTo (l.applyTo .default) ∧ s.IsValid := by
  obtain ⟨l', hl', -, hs, hvalid⟩ := settings_eq_ok_iff.mp h
  obtain rfl : l = l' := hl.unique hl'
  exact ⟨hs, hvalid⟩

section Read

variable {fault : FileFault} (hvars : environment m = .ok vars)
  (hread : CommandLine.read (programName :: m.arguments) = .ok a)

include hvars hread

/-- Having settings is all that it takes to start a survey. -/
theorem surveyed_iff : (runFrom arrival m).Surveyed ↔ ∃ s, settings m vars a = .ok s := by
  constructor
  · intro hsurveyed
    cases hset : settings m vars a with
    | ok s => exact ⟨s, rfl⟩
    | error f =>
      rw [runFrom_of_settings_error hvars hread hset, Ending.Surveyed] at hsurveyed
      obtain ⟨g, rfl⟩ | ⟨i, rfl⟩ := settings_error_cases hset
      · simp at hsurveyed
      · simp at hsurveyed
  · rintro ⟨s, hset⟩
    exact surveyed_of_accepted ⟨vars, hvars, hread, hset⟩

/-- A file that has to be there and is not ends the run. -/
theorem result_of_missing (hrequired : (consulted vars a).2 = true)
    (hfind : m.tree.find (consulted vars a).1 = .error fault) :
    (runFrom arrival m).result =
      .error (.unloaded (.unreadable (consulted vars a).1 fault)) := by
  have hload : Settings.load m.tree a.config (vars.lookup Settings.fileVariable) =
      .error (.unreadable (consulted vars a).1 fault) :=
    Settings.load_of_required (Prod.ext rfl hrequired) hfind
  rw [runFrom_of_settings_error hvars hread (settings_of_load_error hload)]

end Read

/-- A file that need not be there and is not leaves all open. -/
theorem fileSays_consulted_iff_of_missing {fault : FileFault}
    (hrequired : (consulted vars a).2 = false)
    (hfind : m.tree.find (consulted vars a).1 = .error fault) {l : Layer} :
    FileSays m.tree (consulted vars a) l ↔ l = {} := by
  have hnone : m.tree.exists? (consulted vars a).1 = false := by
    simp [FileTree.exists?, hfind, Except.isOk, Except.toBool]
  have hfile : consulted vars a = ((consulted vars a).1, false) := Prod.ext rfl hrequired
  rw [hfile]
  exact Settings.fileSays_iff_of_missing hnone

end Program

end StarSurvey
