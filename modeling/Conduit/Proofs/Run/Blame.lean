import Conduit.Proofs.Run.Sharing
import Conduit.Proofs.Run.Strides

/-!
# Blame

A node fails by its execution when that came to a failure. It also fails after an execution that
succeeded when an error stands in the context that its run knows nothing of: one that another run has left
there when it failed, or one that an execution wrote.
-/

namespace Conduit

/-! ## Where errors come from -/

/-- The error in the context is the text of a failure, unless an execution wrote it or the run was
cancelled. -/
def Sourced (S : Stage) : Prop :=
  ∀ value, S.error = some value → (∃ f ∈ failures S.deeds, value = .string f.2.message) ∨
    (∃ d ∈ S.deeds, d.writes Values.errorKey) ∨ S.cancelled 0 = true

theorem Sourced.move {S S' : Stage} {r : Nat} (hone : OneContext S) (h : Sourced S) (m : Move r S S') :
    Sourced S' := by
  have hsub : failures S.deeds ⊆ failures S'.deeds := List.filterMap_subset _ m.deeds_subset
  have old : ∀ {value}, S.error = some value →
      (∃ f ∈ failures S'.deeds, value = .string f.2.message) ∨
        (∃ d ∈ S'.deeds, d.writes Values.errorKey) ∨ S'.cancelled 0 = true := by
    intro value he
    rcases h value he with ⟨f, hf, hv⟩ | ⟨d, hd, hw⟩ | hc
    · exact .inl ⟨f, hsub hf, hv⟩
    · exact .inr (.inl ⟨d, m.deeds_subset hd, hw⟩)
    · exact .inr (.inr (m.cancelled hc))
  intro value he
  -- A move puts an error there by an execution, by a failure or for a cancelled run.
  rcases m.effect hone with ⟨news, hd, -, -, herr, -⟩ | ⟨s, node, e, _, hd, -, -, -, -, -, -, herr, -⟩ |
    ⟨s, -, -, -, -, -, herr, -⟩
  · rcases herr with ⟨d, hm, hw⟩ | hsame | ⟨-, hnone⟩
    · exact .inr (.inl ⟨d, hd ▸ List.mem_append_left _ hm, hw⟩)
    · exact old (hsame ▸ he)
    · cases hnone.symm.trans he
  · rw [herr] at he
    split at he
    · exact old he
    · rcases Option.or_eq_some_iff.1 he with he | ⟨-, he⟩
      · exact old he
      · exact .inl ⟨(s, e), mem_failures.2 ⟨node, hd ▸ List.mem_cons_self⟩, (Option.some.inj he).symm⟩
  · rw [herr] at he
    split at he
    · next hb => exact .inr (.inr (Bool.and_eq_true_iff.1 hb).2)
    · exact old he

/-! ## Failures by execution -/

/-- An execution that is judged a failure came to it by itself, or it succeeded while an error stood in
the context. -/
theorem Result.verdict_eq_error {result : Result} {values : Values} {failed : Bool}
    {e : ComponentError} (h : result.verdict values failed = .error e) :
    result.verdict [] false = .error e ∨ result = .succeeded ∧ failed = false ∧
      ∃ value, Entries.get? values Values.errorKey = some value ∧
        ∀ text, value = .string text → e = .executionFailed text := by
  cases result with
  | failed e' => exact .inl h
  | panicked => exact .inl h
  | succeeded =>
    unfold verdict at h
    cases hv : Entries.get? values Values.errorKey with
    | none =>
      rw [hv] at h
      cases h
    | some value =>
      rw [hv] at h
      cases failed with
      | true => cases h
      | false =>
        refine .inr ⟨rfl, rfl, value, rfl, ?_⟩
        rintro text rfl
        exact (Except.error.inj h).symm

/-! ## Courses -/

section

variable {l : Launch} {past : List (World × Act)} {u w : World} {a : Act} {r : Nat}

/-- The execution of a node came to a result in a step: it was performed to its end, or the run of the
node's pipeline was concluded. -/
def World.CameTo (u : World) (a : Act) (r : Nat) (node : String) (result : Result) : Prop :=
  (∃ touches, .performed r node touches (some result) ∈ u.deeds a) ∨
    ∃ inner came pipeline, ((∃ t, u.tasks.get t = .nesting r node inner) ∨ u.nextRun ≤ inner) ∧
      .concluded inner came ∈ u.deeds a ∧ result = World.nestedResult pipeline came

theorem World.cameTo_of_view {L : List Deed} {node : String} {result : Result}
    (h : Conduit.CameTo (u.view L) (u.deeds a) r node result) : u.CameTo a r node result := by
  refine h.imp id ?_
  rintro ⟨inner, came, pipeline, hn, hd, he⟩
  refine ⟨inner, came, pipeline, hn.imp_left fun hm => ?_, hd, he⟩
  obtain ⟨t, ht⟩ := World.exists_of_mem_crew hm
  refine ⟨t, ?_⟩
  cases htask : u.tasks.get t <;> rw [htask] at ht <;> cases ht
  rfl

theorem Course.sourced (h : Course l.world past w)
    (clean : Entries.get? l.values Values.errorKey = none) : Sourced (w.view (l.allDeeds past)) := by
  refine (h.invariant (P := fun S => OneContext S ∧ Sourced S) ?_ ?_
    (fun m hS => ⟨hS.1.move m, hS.2.move hS.1 m⟩) fun c hS => ⟨hS.1.cancel c, fun value he => ?_⟩).2
  · exact fun _ => ⟨l.oneContext_opening, fun value he => nomatch clean.symm.trans he⟩
  · exact fun _ => ⟨l.oneContext_broken, fun value he => nomatch clean.symm.trans he⟩
  · exact (hS.2 value he).imp_right fun h => h.imp_right (Stage.cancelled_cancel _ c true)

/-- An error that stands in the context of a run that has not failed: the text of another run's failure,
unless some execution wrote it. -/
def Strays (before deeds : List Deed) (r : Nat) (e : ComponentError) : Prop :=
  (∀ f ∈ failures before, f.1 ≠ r) ∧
    ((∃ f ∈ failures deeds, f.1 ≠ r ∧ e = .executionFailed f.2.message) ∨
      ∃ d ∈ deeds, d.writes Values.errorKey)

theorem Course.blamed_act (h : Course l.world past u)
    (clean : Entries.get? l.values Values.errorKey = none) {node blamed : String} {e : ComponentError}
    (hd : .failed r node (.componentExecution blamed e) ∈ u.deeds a) :
    blamed = node ∧ ∃ result, u.CameTo a r node result ∧
      (result.verdict [] false = .error e ∨
        result = .succeeded ∧ Strays (l.allDeeds past) (l.allDeeds ((u, a) :: past)) r e) := by
  obtain ⟨q, X, X', news, told, ⟨hone, sourced⟩, rested, since, hnews, occasion⟩ :=
    h.occasion (P := fun S => OneContext S ∧ Sourced S) (fun m hS => ⟨hS.1.move m, hS.2.move hS.1 m⟩)
      ⟨h.oneContext, h.sourced clean⟩ hd
  have hX : X.deeds ⊆ l.allDeeds ((u, a) :: past) := by
    rw [since.deeds, l.allDeeds_cons]
    exact List.append_subset.2 ⟨List.subset_append_of_subset_left _ hnews, List.subset_append_right _ _⟩
  cases occasion with
  | failed other => exact absurd rfl (other blamed e)
  | @blamed _ result _ ended goesOn verdict =>
    refine ⟨rfl, result, World.cameTo_of_view ((since.ended _ _ _ ended).mono hnews), ?_⟩
    rcases Result.verdict_eq_error verdict with hown | ⟨hresult, hfailed, value, hvalue, htext⟩
    · exact .inl hown
    rw [hone.context] at goesOn
    -- The run itself has not failed yet, so that any failure is that of another run.
    have others : ∀ f ∈ failures X.deeds, f.1 ≠ r := by
      rintro ⟨s, e'⟩ hf rfl
      rw [rested.failure_isSome ended goesOn hf] at hfailed
      cases hfailed
    refine .inr ⟨hresult, fun f hf => others f ?_, ?_⟩
    · rw [since.deeds]
      exact List.filterMap_subset _ (List.subset_append_right _ _) hf
    · have hvalue : X.error = some value :=
        (congrArg (fun c => Entries.get? (X.values c) Values.errorKey) (hone.context r)).symm.trans
          hvalue
      rcases sourced value hvalue with ⟨f, hf, hv⟩ | ⟨d, hd, hw⟩ | hc
      · exact .inl ⟨f, List.filterMap_subset _ hX hf, others f hf, htext _ hv⟩
      · exact .inr ⟨d, hX hd, hw⟩
      · rw [hc] at goesOn
        cases goesOn

/-- A run comes to the failure of a node's execution only after that node failed so in a step in which
its execution ended. Either the execution came to the failure by itself, or it succeeded while a stray
error stood in the context. -/
theorem Course.blamed (h : Course l.world past w)
    (clean : Entries.get? l.values Values.errorKey = none) {v : String} {e : ComponentError}
    (hb : w.Reports (l.allDeeds past) r (.componentExecution v e) ∨
      ∃ node, .failed r node (.componentExecution v e) ∈ l.allDeeds past) :
    ∃ newer u a older, past = newer ++ (u, a) :: older ∧
      .failed r v (.componentExecution v e) ∈ u.deeds a ∧
      ∃ result, u.CameTo a r v result ∧
        (result.verdict [] false = .error e ∨
          result = .succeeded ∧ Strays (l.allDeeds older) (l.allDeeds ((u, a) :: older)) r e) := by
  obtain ⟨node, hd⟩ := hb.elim (h.failed_of_reports · nofun) id
  obtain ⟨u, a, hm, hfailed⟩ := Launch.exists_act_of_failed hd
  obtain ⟨newer, older, rfl, hu⟩ := h.of_mem hm
  cases hu with
  | next _ before _ =>
    obtain ⟨rfl, hresult⟩ := before.blamed_act clean hfailed
    exact ⟨newer, u, a, older, rfl, hfailed, hresult⟩

end

/-! ## A pipeline that fails -/

def Beside.failing : Launch := launch (.finish (.failed (.executionFailed "boom")))

/-- A node that succeeds beside a pipeline that has failed is blamed for it. -/
theorem blamed_beside : ∃ past w, Course Beside.failing.world past w ∧
    .performed 0 "b" [] (some .succeeded) ∈ deedsOf past ∧
    w.Reports (Beside.failing.allDeeds past) 0 (.componentExecution "b"
      (.executionFailed "Node 'x' failed: Execution failed: boom")) ∧
    ∃ newer u a older, past = newer ++ (u, a) :: older ∧ ∃ result, u.CameTo a 0 "b" result ∧
      (result.verdict [] false = .error (.executionFailed "Node 'x' failed: Execution failed: boom") ∨
        result = .succeeded ∧
          Strays (Beside.failing.allDeeds older) (Beside.failing.allDeeds ((u, a) :: older)) 0
            (.executionFailed "Node 'x' failed: Execution failed: boom")) := by
  have h := (((((Course.start : Course Beside.failing.world [] _).step 1 (by decide)).step 2
    (by decide)).step 4 (by decide)).step 3 (by decide)).step 2 (by decide) |>.step 0 (by decide)
  have blamed := fun e hb => h.blamed (r := 0) (v := "b") (e := e) rfl (.inl (.inr ⟨rfl, hb⟩))
  obtain ⟨newer, u, a, older, hp, -, hresult⟩ := blamed _ rfl
  refine ⟨_, _, h, ?_, .inr ⟨rfl, rfl⟩, newer, u, a, older, hp, hresult⟩
  exact List.mem_flatMap.2 ⟨_, List.mem_cons_of_mem _ (List.mem_cons_of_mem _ List.mem_cons_self),
    List.mem_cons_of_mem _ List.mem_cons_self⟩

end Conduit
