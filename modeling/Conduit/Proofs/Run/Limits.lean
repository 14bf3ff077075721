import Conduit.Proofs.Run.Bounds
import Conduit.Proofs.Run.Causes
import Conduit.Proofs.Run.JoinSafety
import Conduit.Proofs.Run.Results
import Conduit.Proofs.Run.Telling
import Conduit.Proofs.Run.Termination

/-!
# Limits

Every run is bounded by its step limit, whatever its executions ask for: so many executions start, no
node is skipped more often, and the limit is only ever reported when it is used up. One step at least
is always let through.
-/

namespace Conduit

/-! ## Executions that wait for a permit -/

def Task.awaits (r : Nat) : Task → Bool
  | .awaiting s _ => s == r
  | _ => false

/-- How many executions of a run have been admitted and wait for a permit. -/
def World.awaiting (w : World) (r : Nat) : Nat :=
  (List.range w.nextTask).countP fun t => (w.tasks.get t).awaits r

theorem Duty.hasErrand_eq {g : Graph Component} {kind : Errand → Bool} {d : Duty} {e : Errand}
    (h : d.errands g = {e}) : d.hasErrand g kind = kind e := by
  unfold hasErrand
  rw [h, ← Multiset.cons_zero, errandCount_cons]
  cases kind e <;> rfl

namespace World

variable (w : World) (L : List Deed) (r : Nat)

theorem admitted_ledger : ((w.view L).ledger r).admitted = w.awaiting r := by
  unfold Ledger.admitted
  rw [errandCount_ledger]
  refine List.countP_congr fun u _ => Bool.eq_iff_iff.1 ?_
  cases w.tasks.get u with
  | arriving s source place live =>
    have hn : Duty.hasErrand (w.runs.get r).graph Errand.admits (.arriving source place live) =
        false := by
      refine decide_eq_false ?_
      rw [errandCount, Multiset.countP_pos]
      rintro ⟨e, he, ha⟩
      obtain ⟨_, rfl⟩ := Duty.mem_errands_arriving he
      cases ha
    simp [Task.phase, Phase.worksFor, Task.awaits, hn]
  | dispatched s node => simp [Task.phase, Phase.worksFor, Task.awaits, Errand.admits,
      Duty.hasErrand_eq (d := .dispatched node) rfl]
  | awaiting s node => simp [Task.phase, Phase.worksFor, Task.awaits, Errand.admits,
      Duty.hasErrand_eq (d := .awaiting node) rfl]
  | pausing s node wakeAt next stopped => simp [Task.phase, Phase.worksFor, Task.awaits,
      Errand.admits, Duty.hasErrand_eq (d := .pausing node wakeAt next stopped) rfl]
  | nesting s node inner => simp [Task.phase, Phase.worksFor, Task.awaits, Errand.admits,
      Duty.hasErrand_eq (d := .nesting node inner) rfl]
  | _ => rfl

theorem starts_ledger :
    ((w.view L).ledger r).starts = (w.happenings r).countP Happening.isStart :=
  w.countP_ledger L r fun _ => Happening.isNode_of_isStart

end World

/-! ## Reaching the limit -/

/-- The run goes on, has a node to execute and no steps left. -/
structure World.Exhausts (w : World) (r k : Nat) : Prop where
  goesOn : w.shouldStop r = false
  node : ∃ v n, (w.runs.get r).graph.node? v = some n
  limit : (w.runs.get r).limits.steps = k
  steps : k ≤ (w.runs.get r).steps

theorem World.exhausts_of_exceeds {w : World} {a : Act} {r k : Nat} {v : String}
    (h : .failed r v (.stepLimitExceeded k) ∈ w.deeds a) : w.Exhausts r k := by
  cases cause_of_mem_deeds h with
  | execution h => cases h
  | refusal dispatched refuses =>
    obtain ⟨-, -, goesOn, -⟩ := dispatched?_eq_some.1 dispatched
    cases refuses with
    | exhausted known spent => exact ⟨goesOn, ⟨v, _, known⟩, rfl, spent⟩

/-! ## Limits of runs -/

section

variable {l : Launch} {past : List (World × Act)} {w : World} {r : Nat}

theorem Course.limits (h : Course l.world past w) (fits : l.Fits) (hr : r < w.nextRun) :
    (w.runs.get r).limits = l.limits.atLeastOne := by
  refine (h.invariant (P := fun S => Orderly S ∧ ∀ s, s < S.nextRun →
    (S.runs s).limits = l.limits.atLeastOne) ?_ (fun hb => absurd fits hb) ?_ ?_).2 r hr
  · refine fun _ => ⟨l.orderly_opening, fun s hs => ?_⟩
    obtain rfl : s = 0 := Nat.lt_one_iff.1 hs
    rfl
  · rintro q S S' m ⟨ho, hS⟩
    refine ⟨ho.move m, fun s hs => ?_⟩
    rcases m.known_or_begun hs with hold | ⟨hn, rfl⟩
    · exact (congrArg (fun p => p.2.2.2) (m.frame hold)).trans (hS s hold)
    · obtain ⟨-, graph, supervisor, hrun⟩ := m.run_begun hn
      obtain ⟨_, _, _, _, _, _, hq, -⟩ := (m.begins ho).resolve_left hn
      rw [hrun]
      exact (congrArg Limits.atLeastOne (hS q hq)).trans (by simp [Limits.atLeastOne])
  · exact fun c hS => ⟨hS.1.cancel c, hS.2⟩

/-- The executions of a run that has begun are within the limit. -/
theorem Course.paced (h : Course l.world past w) (fits : l.Fits) (hr : r < w.nextRun) :
    ((w.view (l.allDeeds past)).ledger r).Paced ∧
      ((w.view (l.allDeeds past)).ledger r).limit = max l.limits.steps 1 := by
  refine ⟨(h.ledgers_of_strides (G := fun _ => True) (P := fun _ _ x => x.Paced)
    (fun _ _ _ _ _ _ _ _ => trivial) ?_ (fun _ ht hx => hx.stride ht) fits trivial hr).2, ?_⟩
  · exact fun _ _ _ _ => ⟨fun _ => rfl, Nat.zero_le _, Nat.le_refl _⟩
  · exact congrArg Limits.steps (h.limits fits hr)

theorem Course.skipped_le (h : Course l.world past w) (fits : l.Fits) (sound : l.graph.IsSound)
    (hr : r < w.nextRun) (v : String) :
    ((w.view (l.allDeeds past)).ledger r).skipped v ≤ max l.limits.steps 1 := by
  obtain ⟨hg, hrounds⟩ := h.ledgers_of_strides (G := Graph.IsSound) (P := fun g _ x => Rounds g x)
    nested_isSound (fun _ limit cancelled hg => .opening hg.isWellFormed limit cancelled)
    (fun hg ht hx => hx.stride hg.isWellFormed ht) fits sound hr
  obtain ⟨⟨-, hlimited, hcompleted⟩, hlimit⟩ := h.paced fits hr
  obtain ⟨rank, hrank⟩ := hg.isWellFormed.acyclic
  have hskips := hrounds.skips_le hg.isWellFormed hrank v
  have hall : ((w.view (l.allDeeds past)).ledger r).completions (fun u => rank u < rank v) ≤
      ((w.view (l.allDeeds past)).ledger r).completions fun _ => true := by
    unfold Ledger.completions
    refine List.countP_mono_left fun e _ he => ?_
    cases e with
    | nodeCompleted => rfl
    | _ => cases he
  unfold Ledger.skips at hskips
  omega

theorem Course.exhausted (h : Course l.world past w) (fits : l.Fits) (hr : r < w.nextRun) {k : Nat}
    (he : w.Exhausts r k) : k = max l.limits.steps 1 ∧
      (w.happenings r).countP Happening.isStart + w.awaiting r = k := by
  obtain ⟨⟨hsteps, hlimited, -⟩, hlimit⟩ := h.paced fits hr
  rw [w.starts_ledger, w.admitted_ledger] at hsteps hlimited
  have hk : max l.limits.steps 1 = k := by
    rw [← he.limit, h.limits fits hr]
    rfl
  have hgo := hsteps (Bool.or_eq_false_iff.1 he.goesOn)
  have hle : k ≤ ((w.view (l.allDeeds past)).ledger r).steps := he.steps
  omega

theorem Course.nothing_of_not_fits (h : Course l.world past w) (hb : ¬l.Fits) (r : Nat) :
    (w.happenings r).filter Happening.isNode = [] ∧ l.allDeeds past = [] := by
  obtain ⟨cancelled, hv⟩ := h.view_of_not_fits hb
  constructor
  · rw [← w.events_ledger (l.allDeeds past) r, hv]
    simp [Stage.ledger, Launch.broken, Happening.isNode]
  · exact congrArg Stage.deeds hv

theorem Course.exhausted_of_reports (h : Course l.world past w) {k : Nat}
    (hreports : w.Reports (l.allDeeds past) r (.stepLimitExceeded k)) :
    k = max l.limits.steps 1 ∧ ∃ u a, (u, a) ∈ past ∧
      (u.happenings r).countP Happening.isStart + u.awaiting r = k := by
  obtain ⟨node, hd⟩ := h.failed_of_reports hreports nofun
  have fits := h.fits_of_mem hd
  obtain ⟨u, a, hm, hd⟩ := Launch.exists_act_of_failed hd
  obtain ⟨newer, older, -, hu⟩ := h.of_mem hm
  cases hu with
  | next _ before _ =>
    have hu := World.exhausts_of_exceeds hd
    obtain ⟨v, n, hn⟩ := hu.node
    obtain ⟨hk, hall⟩ := before.exhausted fits (before.lt_nextRun hn).1 hu
    exact ⟨hk, u, a, hm, hall⟩

/-- Something that happens to nodes happens no more often than a bound, if it does so in runs that
have begun. -/
theorem Course.countP_le (h : Course l.world past w) {f : Happening → Bool} {k : Nat}
    (hf : ∀ e, f e → e.isNode)
    (hle : l.Fits → r < w.nextRun →
      ((w.view (l.allDeeds past)).ledger r).events.countP f ≤ k) :
    (w.happenings r).countP f ≤ k := by
  by_cases fits : l.Fits
  · by_cases hr : r < w.nextRun
    · exact w.countP_ledger (l.allDeeds past) r hf ▸ hle fits hr
    · have hnone : w.happenings r = [] := List.eq_nil_iff_forall_not_mem.2 fun e he =>
        hr (h.lt_nextRun_of_happened he)
      rw [hnone]
      exact Nat.zero_le _
  · rw [← Happening.countP_isNode _ hf, (h.nothing_of_not_fits fits r).1]
    exact Nat.zero_le _

/-- Every run is bounded: within the limit executions start and nodes are skipped, the limit is only
reported when it is used up, finitely many tasks are made, and in the end nothing is left to happen. -/
theorem Course.bounded (compiled : Compiled l.graph) (h : Course l.world past w) :
    (∀ r, (w.happenings r).countP Happening.isStart ≤ max l.limits.steps 1) ∧
    (∀ r v, (w.happenings r).countP (Happening.skips v) ≤ max l.limits.steps 1) ∧
    (∀ r k, w.Reports (l.allDeeds past) r (.stepLimitExceeded k) →
      k = max l.limits.steps 1 ∧ ∃ u a, (u, a) ∈ past ∧
        (u.happenings r).countP Happening.isStart + u.awaiting r = k) ∧
    ∀ σ : Schedule w, (∃ n, ∀ i, (σ.world i).nextTask ≤ n) ∧
      (σ.IsFair → ∃ i, (σ.world i).Quiet) := by
  have hsound := compiled.isSound
  refine ⟨fun r => ?_, fun r v => ?_, fun r k => h.exhausted_of_reports,
    fun σ => ⟨σ.tasks_bounded h hsound, fun fair => σ.quiets fair h hsound⟩⟩
  · refine h.countP_le (fun _ => Happening.isNode_of_isStart) fun fits hr => ?_
    obtain ⟨⟨-, hlimited, -⟩, hlimit⟩ := h.paced fits hr
    exact hlimit ▸ (Nat.le_add_right ..).trans hlimited
  · refine h.countP_le (fun _ => Happening.isNode_of_skips) fun fits hr => ?_
    exact h.skipped_le fits hsound hr v

end

/-! ## A loop -/

namespace Loop

def again : Activity := .write "nextOverride" (.string "a") .done

def factory : Factory := ⟨"again", fun _ => .ok (.plain "again" again), .null, "", "", false⟩

def compiler : Compiler := ⟨[("again", ⟨"again", factory, .null, .basic "again" again⟩)], false, 1⟩

def definition : Definition :=
  { Definition.new "loop" with nodes := [{ NodeSpec.new "a" with base := some "again" }] }

def graph : Graph Component :=
  ⟨"loop", "a", [⟨"a", "again", .ready (.basic "again" again) (.shared "again"), [], []⟩]⟩

theorem compiled : Compiled graph := by
  refine ⟨compiler, definition, 0, 0, fun p hp => ?_, .done _⟩
  obtain rfl := List.mem_singleton.1 hp
  exact ⟨0, 0, rfl⟩

def launch (steps : Nat) : Launch :=
  ⟨Http.unreachable, [], false, none, graph, ⟨1, steps⟩, none⟩

end Loop

/-- A node that asks for itself is executed as often as the limit says, which is then reported. -/
theorem bounded_loop : ∃ past w, Course (Loop.launch 2).world past w ∧
    (w.happenings 0).countP Happening.isStart ≤ 2 ∧
    w.Reports ((Loop.launch 2).allDeeds past) 0 (.stepLimitExceeded 2) ∧
    ∃ u a, (u, a) ∈ past ∧ (u.happenings 0).countP Happening.isStart + u.awaiting 0 = 2 := by
  have h := ((((Course.start : Course (Loop.launch 2).world [] _).step 1 (by decide)).step 2
    (by decide)).step 3 (by decide)).step 0 (by decide)
  obtain ⟨hstarts, -, hreports, -⟩ := h.bounded Loop.compiled
  exact ⟨_, _, h, hstarts 0, .inr ⟨rfl, rfl⟩, (hreports 0 2 (.inr ⟨rfl, rfl⟩)).2⟩

/-- A limit of no steps still lets one through. -/
theorem not_limited_by_zero : ¬∀ (l : Launch) (past : List (World × Act)) (w : World),
    Compiled l.graph → Course l.world past w →
      ∀ r, (w.happenings r).countP Happening.isStart ≤ l.limits.steps := by
  intro hall
  have h := (Course.start : Course (Loop.launch 0).world [] _).step 1 (by decide)
  exact absurd (hall _ _ _ Loop.compiled h 0) (by decide)

end Conduit
