import StarSurvey.Program
import StarSurvey.Proofs.Collection

/-!
# Whoever looks on

The observer of a survey is called between one outcome and the next, and a console may close at any
byte of any line. None of that reaches what is collected.

- **Collections** (`Collection.collectFrom_snd_eq`): how a collection ends is the same under any two
  observers.
- **Surveys** (`Survey.findings_runFrom_eq`): so are the result, the files and the requests.
- **Consoles** (`Program.runFrom_unmoved_by_the_console`): where a console closes makes no difference to
  a survey, and to a run of the program only by its summary.
-/

namespace StarSurvey

section TwoObservers

variable {σ τ : Type} (observe₁ : σ → Outcome → σ) (start₁ : σ) (observe₂ : τ → Outcome → τ)
  (start₂ : τ)

theorem Collection.gather_snd_eq (c : Collection) (outcomes : List Outcome) :
    (gather observe₁ start₁ c outcomes).2 = (gather observe₂ start₂ c outcomes).2 := by
  rw [gather_eq, gather_eq]

/-- How a collection ends does not depend on who looks on. -/
theorem Collection.collectFrom_snd_eq (arrival : Arrival) (link : Link) (cs : List Contact)
    (limit : Option Nat) :
    (collectFrom arrival link cs limit observe₁ start₁).2 =
      (collectFrom arrival link cs limit observe₂ start₂).2 := by
  have hgather := gather_snd_eq observe₁ start₁ observe₂ start₂ (empty cs.length)
    (outcomes arrival link cs limit)
  unfold collectFrom
  split_ifs
  · rfl
  · rfl
  · simp only [hgather]
    split_ifs
    · rfl
    · rfl

/-- All that a run leaves behind but for what its observer made of the outcomes. -/
def Survey.Run.findings (r : Survey.Run σ) : Except SurveyFault Survey × FileTree × List Request :=
  (r.result, r.tree, r.requests)

/-- What a survey leaves behind does not depend on who looks on. -/
theorem Survey.findings_runFrom_eq (arrival : Arrival) (link : Link) (cs : List Contact)
    (s : Settings) (tree : FileTree) :
    (runFrom arrival link cs s tree observe₁ start₁).findings =
      (runFrom arrival link cs s tree observe₂ start₂).findings := by
  have hends := Collection.collectFrom_snd_eq observe₁ start₁ observe₂ start₂ arrival link cs
    s.maxInFlight
  unfold runFrom
  split_ifs
  · rfl
  · generalize Collection.collectFrom arrival link cs s.maxInFlight observe₁ start₁ = run₁ at hends ⊢
    generalize Collection.collectFrom arrival link cs s.maxInFlight observe₂ start₂ = run₂ at hends ⊢
    obtain ⟨seen₁, ends⟩ := run₁
    obtain ⟨seen₂, ends₂⟩ := run₂
    -- from here on both runs go the same way, and no step of it looks at what the observer made
    obtain rfl : ends = ends₂ := hends
    rcases ends with fault | c
    · cases fault <;> rfl
    · simp only [Except.mapError]
      cases ofCollection? c with
      | none => rfl
      | some found =>
        simp only
        rcases found.snapshot.save tree s.output with ⟨saved, fault | ⟨⟩⟩
        · rfl
        · rfl

end TwoObservers

/-- An observer that makes nothing of the outcomes. -/
def Survey.silent (_ : Unit) (_ : Outcome) : Unit := ()

namespace Program

/-- A run that has found and saved all, whether or not its summary got through. -/
def Ending.IsSaved (e : Ending) : Prop := e.result = .ok () ∨ e.result = .error .unprinted

/-- Two endings that differ in what is on the console, and in whether the summary got through, at
most. -/
structure Ending.SameButPrint (e f : Ending) : Prop where
  result : e.result = f.result ∨ e.IsSaved ∧ f.IsSaved
  tree : e.tree = f.tree
  requests : e.requests = f.requests

theorem Ending.sameButPrint_of_error (fault : Fault) (c₁ c₂ : Console) (tree : FileTree)
    (requests : List Request) :
    Ending.SameButPrint ⟨.error fault, c₁, tree, requests⟩ ⟨.error fault, c₂, tree, requests⟩ :=
  ⟨.inl rfl, rfl, rfl⟩

/-- The room of the console decides about the summary only. -/
theorem runFrom_sameButPrint (arrival : Arrival) (m : Machine) (room : Option Nat) :
    (runFrom arrival m).SameButPrint (runFrom arrival { m with room }) := by
  unfold runFrom
  simp only [show environment { m with room } = environment m from rfl,
    show ∀ vars a, settings { m with room } vars a = settings m vars a from fun _ _ => rfl]
  cases environment m with
  | error f => exact Ending.sameButPrint_of_error _ _ _ _ _
  | ok vars =>
    cases CommandLine.read (programName :: m.arguments) with
    | error stop => exact Ending.sameButPrint_of_error _ _ _ _ _
    | ok a =>
      simp only
      cases settings m vars a with
      | error fault => exact Ending.sameButPrint_of_error _ _ _ _ _
      | ok s =>
        simp only
        have hfindings := Survey.findings_runFrom_eq Console.report { room := m.room } Console.report
          { room } arrival m.network.link (Network.contacts m.network.nodes a.addresses) s m.tree
        generalize Survey.runFrom _ _ _ s m.tree Console.report { room := m.room } = r₁ at hfindings ⊢
        generalize Survey.runFrom _ _ _ s m.tree Console.report { room } = r₂ at hfindings ⊢
        obtain ⟨observed₁, result, tree, requests⟩ := r₁
        obtain ⟨observed₂, result₂, tree₂, requests₂⟩ := r₂
        simp only [Survey.Run.findings, Prod.mk.injEq] at hfindings
        obtain ⟨rfl, rfl, rfl⟩ := hfindings
        cases result with
        | error fault => exact Ending.sameButPrint_of_error _ _ _ _ _
        | ok found =>
          have hsaved : ∀ (printed : Bool) (c : Console),
              Ending.IsSaved ⟨if printed then .ok () else .error .unprinted, c, tree, requests⟩ := by
            intro printed c
            cases printed with
            | false => exact .inr rfl
            | true => exact .inl rfl
          exact ⟨.inr ⟨hsaved _ _, hsaved _ _⟩, rfl, rfl⟩

/-- **Consoles.** Whatever the settings, the nodes, the order of the outcomes and the files, and
wherever two consoles close, a survey that reports to the one and a survey that reports to the other
end with the same result, send the same requests and leave the same files, and so does a survey that
reports to nobody. Two runs of the program on machines that differ in the room of their console differ
beyond the console in nothing but whether the summary got through. -/
theorem runFrom_unmoved_by_the_console (arrival : Arrival) :
    (∀ (link : Link) (cs : List Contact) (s : Settings) (tree : FileTree) (c₁ c₂ : Console),
      let r₁ := Survey.runFrom arrival link cs s tree Console.report c₁
      let r₂ := Survey.runFrom arrival link cs s tree Console.report c₂
      let r := Survey.runFrom arrival link cs s tree Survey.silent ()
      (r₁.result = r₂.result ∧ r₁.requests = r₂.requests ∧ r₁.tree = r₂.tree) ∧
        r₁.result = r.result ∧ r₁.requests = r.requests ∧ r₁.tree = r.tree) ∧
    ∀ (m : Machine) (room₁ room₂ : Option Nat),
      (runFrom arrival { m with room := room₁ }).SameButPrint
        (runFrom arrival { m with room := room₂ }) := by
  refine ⟨fun link cs s tree c₁ c₂ => ?_, fun m room₁ room₂ => ?_⟩
  · have hconsole := Survey.findings_runFrom_eq Console.report c₁ Console.report c₂ arrival link cs s
      tree
    have hsilent := Survey.findings_runFrom_eq Console.report c₁ Survey.silent () arrival link cs s
      tree
    simp only [Survey.Run.findings, Prod.mk.injEq] at hconsole hsilent
    exact ⟨⟨hconsole.1, hconsole.2.2, hconsole.2.1⟩, hsilent.1, hsilent.2.2, hsilent.2.1⟩
  · exact runFrom_sameButPrint arrival { m with room := room₁ } room₂

end Program

end StarSurvey
