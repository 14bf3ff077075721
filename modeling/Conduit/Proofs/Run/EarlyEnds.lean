import Conduit.Proofs.Run.Conclusions
import Conduit.Proofs.Run.Exact
import Conduit.Proofs.Run.Halting
import Conduit.Proofs.Run.Limits

/-!
# Ends and late failures

When a node completes and the end is asked for, its run succeeds, unless an execution that was under way
at that moment fails later. Then the run comes to that failure, although it has ended early.
-/

namespace Conduit

/-! ## What a halted run can still come to -/

/-- The ledger of a run that is halted, and what has become of it. Nodes fail only by executions that
were under way. -/
structure Straggles (r : Nat) (x y : Ledger) : Prop where
  halted : y.halted
  during : ∀ v, y.errands.count (.during v) ≤ x.errands.count (.during v)
  failed : ∃ later, y.deeds = later ++ x.deeds ∧ ∀ node e, .failed r node e ∈ later →
    (∃ e', e = .componentExecution node e') ∧ 0 < x.errands.count (.during node)
  ended : x.ended → y.ended

namespace Straggles

variable {g : Graph Component} {r : Nat} {x y z : Ledger}

theorem refl (halted : x.halted) : Straggles r x x :=
  ⟨halted, fun _ => Nat.le_refl _, ⟨[], rfl, nofun⟩, id⟩

theorem of_deeds_eq (h : Straggles r x y) (halted : z.halted)
    (during : ∀ v, z.errands.count (.during v) ≤ y.errands.count (.during v)) (deeds : z.deeds = y.deeds)
    (ended : y.ended → z.ended) : Straggles r x z :=
  ⟨halted, fun v => (during v).trans (h.during v), deeds ▸ h.failed, fun he => ended (h.ended he)⟩

theorem stride (h : Straggles r x y) (s : Stride g r y z) : Straggles r x z := by
  have stopped : ¬(y.halted = false ∧ y.cancelled = false) :=
    fun hgo => Bool.false_ne_true (hgo.1.symm.trans h.halted)
  have fewer : ∀ {e f : Errand} {rest : Multiset Errand}, y.errands = e ::ₘ rest →
      (∀ v, f ≠ .during v) → ∀ v, (f ::ₘ rest).count (.during v) ≤ y.errands.count (.during v) := by
    intro e f rest errands hf v
    rw [errands, Multiset.count_cons_of_ne (Ne.symm (hf v))]
    exact Multiset.count_le_count_cons ..
  have dropped : ∀ {e : Errand} {rest : Multiset Errand}, y.errands = e ::ₘ rest →
      ∀ v, rest.count (.during v) ≤ y.errands.count (.during v) :=
    fun errands v => errands ▸ Multiset.count_le_count_cons ..
  rcases s with t | ⟨-, goesOn⟩
  swap
  · exact absurd goesOn stopped
  cases t
  -- A run that is halted neither counts arrivals nor starts or goes on.
  case lose goesOn _ _ _ | refuse goesOn | count goesOn _ _ _ | spoil goesOn _ _ | take goesOn _ |
      start goesOn _ | spread goesOn => exact absurd goesOn stopped
  case drop errands _ => exact h.of_deeds_eq h.halted (dropped errands) rfl id
  case abandon errands _ => exact h.of_deeds_eq h.halted (dropped errands) rfl id
  case settle errands _ => exact h.of_deeds_eq h.halted (fewer errands nofun) rfl id
  case halt errands => exact h.of_deeds_eq rfl (dropped errands) rfl fun _ => rfl
  case stop => exact h.of_deeds_eq rfl (fun _ => Nat.le_refl _) rfl id
  case cancel => exact h.of_deeds_eq h.halted (fun _ => Nat.le_refl _) rfl id
  case skip node rest errands =>
    refine h.of_deeds_eq h.halted (fun v => ?_) rfl id
    rw [Multiset.count_add, Joins.count_departures _ _ rfl, Nat.zero_add]
    exact dropped errands v
  -- What fails is an execution, and one that was under way in `x`.
  case blame node rest e errands =>
    obtain ⟨later, hd, hall⟩ := h.failed
    refine ⟨rfl, fun v => (dropped errands v).trans (h.during v),
      ⟨_ :: later, congrArg (List.cons _) hd, fun v e' hm => ?_⟩, h.ended⟩
    rcases List.mem_cons.1 hm with he | hm
    · cases he
      have hpos := Multiset.count_pos.2 (errands ▸ Multiset.mem_cons_self (Errand.during node) rest)
      exact ⟨⟨e, rfl⟩, hpos.trans_le (h.during _)⟩
    · exact hall v e' hm

end Straggles


theorem Strides.straggles {g : Graph Component} {r : Nat} {x y : Ledger} (h : Strides g r x y)
    (halted : x.halted) : Straggles r x y :=
  h.keep (P := fun _ r y => Straggles r x y) (fun s hy => hy.stride s) (.refl halted)

/-! ## Courses -/

section

variable {l : Launch} {past newer : List (World × Act)} {u v w : World} {a : Act} {r : Nat}

/-- A run is not halted without a reason, wherever its executions send it. -/
theorem Course.reasoned (h : Course l.world past w) (fits : l.Fits) (hr : r < w.nextRun) :
    Reasoned r ((w.view (l.allDeeds past)).ledger r) := by
  refine (h.ledgers_of_strides (G := fun _ => True) (P := fun _ r x => Reasoned r x)
    (fun _ _ _ _ _ _ _ _ => trivial) (fun _ _ _ _ => nofun) ?_ fits trivial hr).2
  rintro g r x y - (t | _) hx
  · exact hx.turn t
  · exact hx

theorem Course.goesOn_before (h : Course l.world past v) (onward : Course l.world (newer ++ past) w)
    (hr : r < v.nextRun) (goesOn : (w.contexts.get 0).cancelled = false) :
    (v.contexts.get 0).cancelled = false := by
  refine Bool.eq_false_iff.2 fun hc => ?_
  have hthen : ((v.view (l.allDeeds past)).ledger r).cancelled = true :=
    (congrArg (v.view (l.allDeeds past)).cancelled (h.oneContext.context r)).trans hc
  have hnow := Strides.keep (P := fun _ _ x => x.cancelled = true) (fun s hx => s.cancelled hx)
    (h.strides onward hr).1 hthen
  have hcontext := congrArg (w.view (l.allDeeds (newer ++ past))).cancelled (onward.oneContext.context r)
  exact Bool.false_ne_true (goesOn.symm.trans (hcontext.symm.trans hnow))

/-- Once a node has completed when the end was asked for, and nothing had failed before in a run that is
never cancelled, the run comes to an early end, unless an execution that was under way then has failed
after all. That failure is what the run comes to. -/
theorem Course.ends_early_unless_failed (compiled : Compiled l.graph)
    (h : Course l.world (newer ++ (u, a) :: past) w) (goesOn : (w.contexts.get 0).cancelled = false)
    {node : String} {news : List Happening} (told : (u.act a).happenings r = news ++ u.happenings r)
    (completed : .nodeCompleted node ∈ news) (ends : ((u.act a).contextOf r).values.endRequested)
    (calm : firstFailureIn r (l.allDeeds ((u, a) :: past)) = none) :
    (∀ result, .concluded r result ∈ l.allDeeds (newer ++ (u, a) :: past) →
      (firstFailureIn r (l.allDeeds (newer ++ (u, a) :: past)) = none →
        ∃ outcome, result = .ok outcome ∧ outcome.endedEarly) ∧
      ∀ e, firstFailureIn r (l.allDeeds (newer ++ (u, a) :: past)) = some e →
        result = .error e ∧ ∃ v e', e = .componentExecution v e' ∧ 0 < (u.act a).underWay r v) ∧
    (∀ ending, w.returned = some ending →
      ∃ result, ending = .over result ∧ .concluded 0 result ∈ l.allDeeds (newer ++ (u, a) :: past)) ∧
    ∀ σ : Schedule w, σ.IsFair → ∃ i, (σ.world i).returned.isSome := by
  obtain ⟨v, hu⟩ := h.earlier
  obtain rfl : v = u.act a := by
    cases hu
    rfl
  have halted := World.halted_of_completed told completed ends
  obtain ⟨hr, fits⟩ := hu.lt_nextRun_of_halted halted
  have hended : ((u.act a).runs.get r).ended := by
    rcases hu.reasoned fits hr halted with ⟨v, e, hd⟩ | he | hc
    · exact absurd (List.mem_filter.1 hd).1 (firstFailureIn_eq_none.1 calm v e)
    · exact he
    · have hc : ((u.act a).contexts.get 0).cancelled = true :=
        (congrArg ((u.act a).view []).cancelled (hu.oneContext.context r)).symm.trans hc
      cases (hu.goesOn_before h hr goesOn).symm.trans hc
  obtain ⟨hstrides, -, -⟩ := hu.strides h hr
  -- From here on only the executions that are under way can still fail.
  have straggles := hstrides.straggles halted
  refine ⟨fun result hd => ?_, fun ending hr => h.over_of_returned fits hr, fun σ fair => ?_⟩
  · have hresult := h.result_of_concluded goesOn hd
    refine ⟨fun hnone => ?_, fun e hsome => ?_⟩
    · rw [hnone] at hresult
      exact ⟨_, hresult, straggles.ended hended⟩
    · rw [hsome] at hresult
      refine ⟨hresult, ?_⟩
      obtain ⟨v, hd⟩ := exists_of_firstFailureIn hsome
      obtain ⟨later, hdeeds, hall⟩ := straggles.failed
      have hm : .failed r v e ∈ ((w.view (l.allDeeds (newer ++ (u, a) :: past))).ledger r).deeds :=
        List.mem_filter.2 ⟨hd, beq_self_eq_true r⟩
      rw [hdeeds] at hm
      have hm := (List.mem_append.1 hm).resolve_right fun hold =>
        firstFailureIn_eq_none.1 calm v e (List.mem_filter.1 hold).1
      obtain ⟨⟨e', rfl⟩, hpos⟩ := hall v e hm
      exact ⟨v, e', rfl, (World.underWay_ledger ..) ▸ hpos⟩
  · obtain ⟨i, hq⟩ := σ.quiets fair h compiled.isSound
    obtain ⟨_, hi⟩ := σ.course h i
    exact ⟨i, (Option.isSome_map ..).trans (hi.ended_of_quiet hq)⟩

end

/-! ## A straggler -/

namespace Straggler

def activities : List (String × Activity) :=
  [("idle", .done), ("late", Race.fail "late"), ("end", .write Values.endKey (.bool true) .done)]

/-- Two nodes after a node: one fails after ten milliseconds, and the other asks for the end. -/
def definition : Definition :=
  { Definition.new "straggler" with
    nodes := [Workshop.spec "a" "idle" ["b", "c"], Workshop.spec "b" "late" [],
      Workshop.spec "c" "end" []] }

def graph : Graph Component :=
  ⟨"straggler", "a", [Workshop.node "a" "idle" .done [] ["b", "c"],
    Workshop.node "b" "late" (Race.fail "late") ["a"] [],
    Workshop.node "c" "end" (.write Values.endKey (.bool true) .done) ["a"] []]⟩

theorem compiled : Compiled graph :=
  Workshop.compiled activities definition (.done _)

def launch : Launch := ⟨Http.unreachable, [], false, none, graph, ⟨2, 8⟩, none⟩

end Straggler

/-- A node asks for the end, and one that is under way then fails after all. -/
theorem ends_early_unless_failed_straggler : ∃ newer u a past w,
    Course Straggler.launch.world (newer ++ (u, a) :: past) w ∧
    ((u.act a).contextOf 0).values.endRequested ∧
    firstFailureIn 0 (Straggler.launch.allDeeds ((u, a) :: past)) = none ∧ (w.runs.get 0).ended ∧
    w.returned = some (.over (.error (.componentExecution "b" (.executionFailed "late")))) := by
  have h : Course Straggler.launch.world ([_, _, _] ++ (_, _) :: [_, _]) _ :=
    ((((((Course.start : Course Straggler.launch.world [] _).step 1 (by decide)).step 2
      (by decide)).step 3 (by decide)).next (.pass 10) trivial).step 2 (by decide)).step 0 (by decide)
  obtain ⟨hall, hreturned, -⟩ := Course.ends_early_unless_failed Straggler.compiled h rfl
    (r := 0) (show _ = [_, _] ++ _ from rfl) (show Happening.nodeCompleted "c" ∈ _ from List.mem_cons_self)
    (by decide) rfl
  obtain ⟨result, he, hd⟩ := hreturned _ rfl
  obtain ⟨rfl, -⟩ := (hall result hd).2 (.componentExecution "b" (.executionFailed "late")) rfl
  exact ⟨_, _, _, _, _, h, by decide, rfl, by decide, congrArg some he⟩

end Conduit
