import Conduit.Proofs.Run.Conclusions
import Conduit.Proofs.Run.Footprints

/-!
# Leftovers

What is left when a run that was not cancelled is over. Nobody is at work any more, neither in the
run nor in a run within it. The context has no error if the run succeeded. If it failed the context
has one, unless an execution took it away.
-/

namespace Conduit

/-! ## Nobody at work -/

theorem Rested.not_concluded {S : Stage} (h : Rested S) (goesOn : S.cancelled 0 = false) {s : Nat}
    {d : Duty} (busy : (s, d) ∈ S.crew) (result : RunResult) : .concluded s result ∉ S.deeds := by
  intro hd
  rcases (h.isOver s result hd).2 with hc | idle
  · exact Bool.false_ne_true (goesOn.symm.trans hc)
  · exact idle d busy

theorem countP_concludes_eq_zero {s : Nat} {deeds : List Deed} (h : ∀ result, .concluded s result ∉ deeds) :
    deeds.countP (Deed.concludes s) = 0 := by
  refine List.countP_eq_zero.2 fun d hd hs => ?_
  cases d with
  | concluded q result => exact h result (beq_iff_eq.1 hs ▸ hd)
  | _ => cases hs

theorem Rested.crew_eq_zero {S : Stage} (h : Rested S) (goesOn : S.cancelled 0 = false)
    (one : ∀ s, s < S.nextRun → S.conclusions s = 1) (idle : S.Idle 0) : S.crew = 0 := by
  have every : ∀ s, S.Idle s := by
    intro s
    induction s using Nat.strong_induction_on with
    | _ s ih =>
      intro d hd
      have hs : s ≠ 0 := fun he => idle d (he ▸ hd)
      have hone := one s (h.reported.oneContext.orderly.crew _ hd).1
      have hdeeds := countP_concludes_eq_zero (h.not_concluded goesOn hd)
      have hposts : S.posts.countP (fun p => p.2 = s) = 0 :=
        Multiset.countP_eq_zero.2 fun p hp he => hs (he ▸ congrArg Prod.snd (h.reported.posts p hp))
      have hawaiters : 0 < awaiters s S.crew := by
        unfold Stage.conclusions at hone
        omega
      -- The run is that of a node in an earlier run, for which nobody works.
      obtain ⟨⟨q, e⟩, hm, he⟩ := Multiset.countP_pos.1 hawaiters
      cases e with
      | nesting node inner =>
        obtain rfl := beq_iff_eq.1 he
        exact ih q (h.reported.oneContext.orderly.crew _ hm).2.1 _ hm
      | _ => cases he
  exact Multiset.eq_zero_of_forall_notMem fun p hp => every p.1 p.2 hp

/-! ## Where an error comes from -/

/-- The duty is an execution of a component, or what it came to. -/
def Duty.executes : Duty → Bool
  | .performing _ _ => true
  | .pausing _ _ _ _ => true
  | .ended _ _ => true
  | _ => false

/-- An error in a context that was not cancelled is that of an execution, that of a run which goes on
and has failed, or that with which the first run ended. -/
def Explained (S : Stage) : Prop :=
  S.cancelled 0 = false → S.error.isSome →
    (∃ p ∈ S.crew, p.2.executes) ∨
    (∃ s, (S.runs s).failure.isSome ∧ ∀ result, .concluded s result ∉ S.deeds) ∨
    ∃ e, .concluded 0 (.error e) ∈ S.deeds

section

variable {S S' : Stage} {r : Nat}

/-- A task that executes nothing has gone on, and nothing came of it but its next duties. -/
theorem Explained.of_crew (h : Explained S) {d : Duty} {rest : Multiset (Nat × Duty)}
    (crew : S.crew = (r, d) ::ₘ rest) (idle : d.executes = false) (crew' : ∀ p ∈ rest, p ∈ S'.crew)
    (cancelled : S'.cancelled = S.cancelled) (error : S'.error = S.error)
    (failure : ∀ s, (S.runs s).failure.isSome → (S'.runs s).failure.isSome)
    (news : List Deed) (deeds : S'.deeds = news ++ S.deeds) (plain : ∀ d ∈ news, d.isPlain) :
    Explained S' := by
  intro goesOn he
  rw [cancelled] at goesOn
  rw [error] at he
  rcases h goesOn he with ⟨p, hp, hx⟩ | ⟨s, hs, hn⟩ | ⟨e, hd⟩
  · rcases Multiset.mem_cons.1 (crew ▸ hp) with rfl | hp
    · rw [idle] at hx
      cases hx
    · exact .inl ⟨p, crew' p hp, hx⟩
  · exact .inr (.inl ⟨s, failure s hs, fun result hd =>
      hn result (concluded_append plain (deeds ▸ hd))⟩)
  · exact .inr (.inr ⟨e, deeds ▸ List.mem_append_right _ hd⟩)

theorem Explained.of_fail (rested : Rested S) {d : Duty} {rest : Multiset (Nat × Duty)}
    (crew : S.crew = (r, d) ::ₘ rest) {X : Stage} {node : String} {e : PipelineError}
    (runs : S'.runs = (X.fail r node e).runs) (cancelled : S'.cancelled = S.cancelled)
    (news : List Deed) (deeds : S'.deeds = .failed r node e :: (news ++ S.deeds))
    (plain : ∀ d ∈ news, d.isPlain) : Explained S' := by
  intro goesOn _
  rw [cancelled] at goesOn
  refine .inr (.inl ⟨r, ?_, fun result hd => ?_⟩)
  · rw [runs, (X.failure_fail r node e).1]
    cases (X.runs r).failure <;> rfl
  · rw [deeds] at hd
    exact rested.not_concluded goesOn (crew ▸ Multiset.mem_cons_self _ _) result
      (concluded_append plain ((List.mem_cons.1 hd).resolve_left (by simp)))

/-- A task that executes nothing has gone on, and its run has changed. -/
theorem Explained.of_change (h : Explained S) {d : Duty} {rest : Multiset (Nat × Duty)} {run : Run}
    (crew : S.crew = (r, d) ::ₘ rest) (idle : d.executes = false) (crew' : ∀ p ∈ rest, p ∈ S'.crew)
    (runs : S'.runs = Function.update S.runs r run) (failure : run.failure = (S.runs r).failure)
    (cancelled : S'.cancelled = S.cancelled) (error : S'.error = S.error)
    (news : List Deed) (deeds : S'.deeds = news ++ S.deeds) (plain : ∀ d ∈ news, d.isPlain) :
    Explained S' :=
  h.of_crew crew idle crew' cancelled error
    (fun _ hs => by rwa [Stage.lasting_update r runs failure]) news deeds plain

theorem Explained.of_execution {p : Nat × Duty} (crew : p ∈ S'.crew) (executes : p.2.executes) :
    Explained S' := fun _ _ => .inl ⟨p, crew, executes⟩

theorem Explained.of_cancelled (cancelled : S'.cancelled 0 = true) : Explained S' :=
  fun goesOn _ => absurd (goesOn.symm.trans cancelled) Bool.false_ne_true

/-- An execution counts as good with an error in its context only if its run has failed. -/
theorem failure_of_verdict {result : Result} (hc : (S.runs r).context = 0) (he : S.error.isSome)
    (verdict : result.verdict (S.valuesOf r) (S.runs r).failure.isSome = .ok ()) :
    (S.runs r).failure.isSome := by
  have hv : S.error = Entries.get? (S.valuesOf r) Values.errorKey :=
    congrArg (fun c => Entries.get? (S.values c) Values.errorKey) hc.symm
  obtain ⟨reported, hr⟩ := Option.isSome_iff_exists.1 (hv ▸ he)
  cases result with
  | succeeded =>
    unfold Result.verdict at verdict
    rw [hr] at verdict
    cases hf : (S.runs r).failure with
    | some e => rfl
    | none =>
      rw [hf] at verdict
      cases reported <;> cases verdict
  | failed e => cases verdict
  | panicked => cases verdict

/-- The first run is concluded. Its failure, if it has one, is what it ends with. -/
theorem Explained.conclude (h : Explained S) (context : (S.runs 0).context = 0) {cancelled : Bool}
    (isOver : S.isOver 0 = some cancelled) (posts : Multiset (Nat × Nat))
    (endings : Nat → Option Ending) :
    Explained { S.conclude 0 cancelled with posts := posts, endings := endings } := by
  intro goesOn he
  change (S.conclude 0 cancelled).cancelled 0 = false at goesOn
  change (S.conclude 0 cancelled).error.isSome at he
  rw [S.cancelled_conclude 0 cancelled] at goesOn
  obtain rfl : cancelled = false := by
    cases cancelled with
    | false => rfl
    | true => exact (context ▸ cancelled_of_isOver isOver).symm.trans goesOn
  rw [S.error_conclude 0 false context, goesOn, Bool.or_false, Bool.and_false, if_neg (by simp)]
    at he
  have deeds := (S.conclude_adds 0 false).2.1
  rcases h goesOn he with ⟨p, hp, hx⟩ | ⟨s, hs, hn⟩ | ⟨e, hd⟩
  · exact .inl ⟨p, (S.conclude_adds 0 false).2.2.2.2 ▸ hp, hx⟩
  · by_cases hz : s = 0
    · subst hz
      obtain ⟨e, hf⟩ := Option.isSome_iff_exists.1 hs
      refine .inr (.inr ⟨e, deeds ▸ List.mem_cons.2 (.inl ?_)⟩)
      rw [Stage.resultOf, hf]
    · refine .inr (.inl ⟨s, ?_, fun result hd => ?_⟩)
      · exact (congrArg (fun run => run.failure.isSome) (S.runs_conclude_of_ne 0 hz false)).trans hs
      · refine hn result ((List.mem_cons.1 (deeds ▸ hd)).resolve_left fun he => ?_)
        exact hz (Deed.concluded.inj he).1
  · exact .inr (.inr ⟨e, deeds ▸ List.mem_cons_of_mem _ hd⟩)

theorem Explained.move (h : Explained S) (rested : Rested S) (m : Move r S S') : Explained S' := by
  have context : ∀ s, (S.runs s).context = 0 := rested.reported.oneContext.context
  cases m
  -- Nothing was executed by the task, so the explanation is the one there was.
  case giveUp d rest crew isOpen _ =>
    have idle : d.executes = false := by
      obtain ⟨_, _, _, rfl⟩ | ⟨_, rfl⟩ := Duty.eq_of_isOpen isOpen <;> rfl
    exact h.of_crew crew idle (fun _ => Multiset.mem_cons_of_mem) rfl rfl (fun _ => id) []
      rfl (by simp)
  case stray crew _ _ | rest crew _ =>
    exact h.of_crew crew rfl (fun _ => Multiset.mem_cons_of_mem) rfl rfl (fun _ => id) []
      rfl (by simp)
  case lost crew _ _ _ _ =>
    exact h.of_crew crew rfl (fun _ => Multiset.mem_cons_of_mem) rfl rfl (fun _ => id) _ rfl
      (isPlain_askDeeds r _ _ _)
  case count source _ live _ edge _ _ crew _ _ _ _ =>
    refine h.of_change crew rfl (fun _ => Multiset.mem_cons_of_mem) rfl (Run.failure_changeNode ..) rfl
      rfl (_ :: World.askDeeds r source edge live) rfl fun d hd => ?_
    rcases List.mem_cons.1 hd with rfl | hd
    · rfl
    · exact isPlain_askDeeds r _ _ _ d hd
  -- A failure is explained by its run, which goes on.
  case refuse source _ live _ edge _ crew _ _ _ =>
    exact .of_fail rested crew rfl (Stage.cancelled_fail ..) _ (Stage.fail_adds ..).2.1
      (isPlain_askDeeds r source edge live)
  case unknown crew _ _ | unusable crew _ _ _ | exceed crew _ _ _ _ | blame crew _ _ =>
    exact .of_fail rested crew rfl (Stage.cancelled_fail ..) []
      (Stage.fail_adds ..).2.1 (by simp)
  -- The run changes, but for its failure.
  case skip crew =>
    refine h.of_change crew rfl (fun p hp => ?_) rfl (Run.failure_changeNode ..) rfl rfl [] rfl (by simp)
    exact Multiset.mem_cons_of_mem (Multiset.mem_add.2 (.inr hp))
  case take crew _ _ _ _ _ | queue crew _ _ _ _ _ | grant crew _ | withdraw crew _ _
      | halt crew _ =>
    exact h.of_change crew rfl (fun _ => Multiset.mem_cons_of_mem) rfl rfl rfl rfl [] rfl (by simp)
  case retreat crew _ =>
    exact h.of_change crew rfl (fun _ => Multiset.mem_cons_of_mem) rfl (Run.failure_released _) rfl rfl
      [] rfl (by simp)
  case close crew => exact h.of_change crew rfl (fun _ => id) rfl rfl rfl rfl [] rfl (by simp)
  case jump crew _ _ _ =>
    refine h.of_change crew rfl (fun p hp => ?_) rfl rfl rfl (S.error_erase _ (by decide)) [] rfl
      (by simp)
    exact Multiset.mem_cons_of_mem (Multiset.mem_cons_of_mem hp)
  case spread crew _ _ _ =>
    refine h.of_change crew rfl (fun p hp => ?_) rfl rfl rfl (S.error_erase _ (by decide)) [] rfl
      (by simp)
    exact Multiset.mem_cons_of_mem (Multiset.mem_add.2 (.inr hp))
  case enter t node rest n graph origin crew _ _ _ =>
    refine h.of_crew crew rfl (fun p hp => ?_) rfl rfl (fun s hs => ?_) [] rfl (by simp)
    · exact Multiset.mem_cons_of_mem (Multiset.mem_cons_of_mem hp)
    · by_cases hn : s = S.nextRun
      · rw [hn, rested.reported.oneContext.orderly.fresh _ le_rfl] at hs
        cases hs
      · rw [show ((((S.change r fun run => run.setStatus node .running).say r
            (.nodeStarted node n.componentId)).begin graph (S.runs r).context t
              (S.runs r).limits).withCrew _).runs s =
            (S.change r fun run => run.setStatus node .running).runs s from
          Function.update_of_ne hn _ _]
        exact (congrArg Option.isSome (S.lasting_change r (f := Run.failure)
          (g := fun run => run.setStatus node .running) (Run.failure_changeNode ..))).trans hs
  -- The task executes, or did.
  case start crew _ _ _ | finish crew _ | doze crew _ | resume crew | interrupt crew _
      | surface crew _ =>
    exact .of_execution (Multiset.mem_cons_self _ _) rfl
  case abandon crew cancelled => exact .of_cancelled (context r ▸ cancelled)
  case settle node result rest crew _ verdict =>
    intro goesOn he
    refine .inr (.inl ⟨r, ?_, rested.not_concluded goesOn (crew ▸ Multiset.mem_cons_self _ _)⟩)
    have hf : ((S.runs r).released.completed node).failure = (S.runs r).failure :=
      (Run.failure_changeNode ..).trans (Run.failure_released _)
    exact (congrArg Option.isSome (Stage.lasting_update (s := r) r rfl hf)).trans
      (failure_of_verdict (context r) he verdict)
  -- Only the first run is concluded by a task that conducts it.
  case conclude t posts cancelled post isOver =>
    obtain ⟨rfl, rfl⟩ := Prod.mk.inj (rested.reported.posts (t, r) (post ▸ Multiset.mem_cons_self _ _))
    exact h.conclude (context 0) isOver posts _
  case expire t posts post _ =>
    refine .of_cancelled ((congrFun (Stage.cancelled_conclude ..) 0).trans ?_)
    simp [Stage.cancel, context r]

end

theorem Explained.cancel {S : Stage} (h : Explained S) (c : Nat) : Explained (S.cancel c true) := by
  intro goesOn
  refine h ?_
  cases hc : S.cancelled 0 with
  | false => rfl
  | true => exact (S.cancelled_cancel c true hc).symm.trans goesOn

/-! ## Errors that stay -/

theorem Touch.isSome_foldl_apply {k : String} {touches : List Touch}
    (h : ∀ t ∈ touches, t.erases k = false) {values : Values} (hv : (Entries.get? values k).isSome) :
    (Entries.get? (touches.foldl Touch.apply values) k).isSome := by
  induction touches generalizing values with
  | nil => exact hv
  | cons t touches ih =>
    refine ih (fun u hu => h u (List.mem_cons_of_mem _ hu)) ?_
    rw [t.get?_apply]
    split
    · next hk =>
      cases t with
      | write key value => rfl
      | erase key => exact absurd (h _ List.mem_cons_self) (by simp [Touch.erases, show key = k from hk])
    · exact hv

/-- After a failure the context has an error, unless an execution took it away. -/
def Marred (S : Stage) : Prop :=
  failures S.deeds ≠ [] → S.error.isSome ∨ ∃ d ∈ S.deeds, d.erases Values.errorKey

section

variable {S S' : Stage} {r : Nat}

theorem isSome_ite_or {b : Bool} {x : Option Value} {value : Value} (hx : x.isSome) :
    (if b then x.or (some value) else x).isSome := by
  cases b with
  | false => exact hx
  | true => exact Option.isSome_or.trans (by simp [hx])

/-- An execution leaves the error, unless one of its touches takes it away. -/
theorem Stage.error_isSome_performed (h : OneContext S) (he : S.error.isSome) {X : Stage}
    {node : String} {activity : Activity} {pending : Pending} {scene : Scene} {result : Option Result}
    (burst : activity.burst S.network
      ⟨S.valuesOf r, S.cancelled (S.runs r).context, [], []⟩ = (scene, pending))
    (values : X.values = (S.setValues (S.runs r).context fun _ => scene.values).values)
    (deed : .performed r node (activity.touches S.network
      ⟨S.valuesOf r, S.cancelled (S.runs r).context, [], []⟩) result ∈ X.deeds) :
    X.error.isSome ∨ ∃ d ∈ X.deeds, d.erases Values.errorKey := by
  by_cases hx : ∃ d ∈ X.deeds, d.erases Values.errorKey
  · exact .inr hx
  left
  have hv := (Activity.bursts_of_burst burst).values_eq
  have hX : X.values 0 = scene.values := by
    rw [values, h.context r]
    simp only [Stage.setValues, Function.update_self]
  have hS : S.valuesOf r = S.values 0 := congrArg S.values (h.context r)
  unfold Stage.error
  rw [hX, hv, hS]
  refine Touch.isSome_foldl_apply (fun t ht => ?_) he
  by_contra hne
  refine hx ⟨_, deed, List.any_eq_true.2 ⟨t, ?_, Bool.not_eq_false _ ▸ hne⟩⟩
  rw [hS]
  exact ht

theorem Stage.error_isSome_fail (he : S.error.isSome) (X : Stage) (node : String) (e : PipelineError)
    (context : (X.runs r).context = 0) (error : X.error = S.error) :
    (X.fail r node e).error.isSome := by
  rw [X.error_fail r node e context, error]
  split
  · exact he
  · exact isSome_ite_or (b := true) he

theorem Stage.error_isSome_conclude (he : S.error.isSome) (X : Stage) (q : Nat) (b : Bool)
    (context : (X.runs q).context = 0) (error : X.error = S.error) :
    (X.conclude q b).error.isSome := by
  rw [X.error_conclude q b context, error]
  exact isSome_ite_or he

theorem Move.error_isSome (m : Move r S S') (h : OneContext S) (he : S.error.isSome) :
    S'.error.isSome ∨ ∃ d ∈ S'.deeds, d.erases Values.errorKey := by
  cases m
  case finish burst | doze burst =>
    exact Stage.error_isSome_performed h he burst rfl List.mem_cons_self
  -- Whatever fails or is concluded writes an error only where there is none.
  case refuse => exact .inl (Stage.error_isSome_fail he (S.record _) _ _ (h.context r) rfl)
  case unknown | unusable => exact .inl (Stage.error_isSome_fail he S _ _ (h.context r) rfl)
  case exceed =>
    have hc := S.lasting_change (f := Run.context) (s := r) r
      (g := fun run => { run with steps := run.steps + 1 }) rfl
    exact .inl (Stage.error_isSome_fail he _ _ _ (hc.trans (h.context r)) rfl)
  case blame =>
    have hc := S.lasting_change (f := Run.context) (s := r) r (Run.context_released _)
    exact .inl (Stage.error_isSome_fail he _ _ _ (hc.trans (h.context r)) rfl)
  case surface inner node rest cancelled _ _ =>
    exact .inl ((congrArg Option.isSome (Stage.error_erase _ _ (by decide))).trans
      (Stage.error_isSome_conclude he S inner cancelled (h.context inner) rfl))
  case conclude t posts cancelled _ _ =>
    exact .inl (Stage.error_isSome_conclude he S r cancelled (h.context r) rfl)
  case expire => exact .inl (Stage.error_isSome_conclude he (S.cancel _ true) r true (h.context r) rfl)
  case jump | spread => exact .inl ((congrArg Option.isSome (S.error_erase _ (by decide))).trans he)
  all_goals exact .inl he

theorem Marred.move (h : Marred S) (reported : Reported S) (m : Move r S S') : Marred S' := by
  have older : failures S.deeds ≠ [] → S'.error.isSome ∨ ∃ d ∈ S'.deeds, d.erases Values.errorKey := by
    intro hf
    rcases h hf with he | ⟨d, hd, hx⟩
    · exact m.error_isSome reported.oneContext he
    · exact .inr ⟨d, m.deeds_subset hd, hx⟩
  intro hf
  rcases m.effect reported.oneContext with ⟨news, hn, hp, -⟩ |
    ⟨s, node, e, news, hn, hp, -, -, -, -, -, error, -⟩ | ⟨s, -, hn, -⟩
  · exact older (failures_append hp S.deeds ▸ hn ▸ hf)
  · cases hs : (S.runs s).failure with
    | some e' =>
      exact older (List.ne_nil_of_mem (reported.failure s e' hs))
    | none =>
      left
      rw [error, hs]
      exact Option.isSome_or.trans (by simp)
  · rw [hn] at hf
    exact older hf

end

/-! ## Courses -/

section

variable {l : Launch} {past : List (World × Act)} {w : World}

theorem Course.marred (h : Course l.world past w) : Marred (w.view (l.allDeeds past)) :=
  (h.invariant (P := fun S => Reported S ∧ Marred S)
    (fun _ => ⟨l.reported_opening, fun hf => absurd rfl hf⟩)
    (fun _ => ⟨l.reported_broken, fun hf => absurd rfl hf⟩) (fun m hS => ⟨hS.1.move m, hS.2.move hS.1 m⟩)
    fun c hS => ⟨hS.1.cancel c, hS.2⟩).2

theorem Course.over_of_crew (h : Course l.world past w) {deeds : List Deed}
    (crew : (w.view deeds).crew = 0) {t : Nat} (ht : t ≠ 0) : w.tasks.get t = .over := by
  have hcrew : ∀ p, p ∉ (w.tasks.get t).phase.crew := fun p hp =>
    Multiset.notMem_zero p (crew ▸ h.awake.mem_view_crew hp deeds)
  have hposts : ∀ p ∈ (w.tasks.get t).phase.posts t, p = (0, 0) := fun p hp =>
    h.reported.posts p (h.awake.mem_view_posts hp _)
  have halert := h.awake.alert t
  unfold World.Alert at halert
  cases htask : w.tasks.get t with
  | «over» => rfl
  | launching =>
    rw [htask] at halert
    exact halert.elim
  | conducting r deadline =>
    rw [htask] at hposts
    exact absurd (congrArg Prod.fst (hposts (t, r) (Multiset.mem_singleton_self _))) ht
  | _ =>
    rw [htask] at hcrew
    exact absurd (Multiset.mem_singleton_self _) (hcrew _)

variable (goesOn : (w.contexts.get 0).cancelled = false)

include goesOn

theorem Course.crew_eq_zero (h : Course l.world past w) (fits : l.Fits)
    (idle : (w.view (l.allDeeds past)).Idle 0) : (w.view (l.allDeeds past)).crew = 0 :=
  h.rested.crew_eq_zero goesOn (fun _ hs => h.conclusions_eq_one fits hs) idle

/-- A run that has failed leaves an error in its context, unless an execution took it away. -/
theorem Course.error_of_failed (h : Course l.world past w) {e : PipelineError}
    (hd : .concluded 0 (.error e) ∈ l.allDeeds past) :
    (Entries.get? (w.contexts.get 0).values Values.errorKey).isSome ∨
      ∃ d ∈ l.allDeeds past, d.erases Values.errorKey := by
  refine h.marred ?_
  refine List.ne_nil_of_mem ((h.reported.concluded 0 e hd).resolve_left fun hc => ?_)
  exact Bool.false_ne_true (goesOn.symm.trans hc.1)

end

end Conduit
