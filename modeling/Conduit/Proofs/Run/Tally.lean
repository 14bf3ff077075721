import Conduit.Proofs.Run.Turns

/-!
# Tallies

A run counts its tasks and its permits. Every permit is free, handed over or held, every task in the
queue waits for one or was handed one, and nobody waits while a permit is free. A world in which
nothing is left to happen has therefore nothing left to do.
-/

namespace Conduit

/-! ## What a run counts -/

/-- What a run knows of its tasks and its permits. -/
def Run.account (run : Run) : Nat × Nat × List Nat × List Nat × Nat :=
  (run.unfinished, run.free, run.waiting, run.granted, run.limits.parallel)

theorem Run.account_changeNode (run : Run) (id : String) (f : NodeState → NodeState) :
    (run.changeNode id f).account = run.account :=
  Lasting.changeNode (fun _ _ _ _ => rfl) run id f

/-- The task holds a permit. -/
def Duty.holds : Duty → Bool
  | .admitted _ => true
  | .performing _ _ => true
  | .pausing _ _ _ _ => true
  | .nesting _ _ => true
  | .ended _ _ => true
  | _ => false

def Duty.queues : Duty → Bool
  | .awaiting _ => true
  | _ => false

/-- How many tasks of a run have a duty of a kind. -/
def crewCount (kind : Duty → Bool) (r : Nat) (crew : Multiset (Nat × Duty)) : Nat :=
  crew.countP fun p => p.1 = r ∧ kind p.2

theorem crewCount_cons (kind : Duty → Bool) (r s : Nat) (d : Duty)
    (crew : Multiset (Nat × Duty)) :
    crewCount kind s ((r, d) ::ₘ crew) =
      crewCount kind s crew + if r = s ∧ kind d then 1 else 0 :=
  Multiset.countP_cons ..

theorem crewCount_zero (kind : Duty → Bool) (s : Nat) : crewCount kind s 0 = 0 := rfl

theorem crewCount_add (kind : Duty → Bool) (s : Nat) (crew others : Multiset (Nat × Duty)) :
    crewCount kind s (crew + others) = crewCount kind s crew + crewCount kind s others :=
  Multiset.countP_add ..

theorem crewCount_arrivals (kind : Duty → Bool) {b : Bool}
    (hk : ∀ source place live, kind (.arriving source place live) = b) (run : Run) (r s : Nat)
    (source : String) (live : Bool) :
    crewCount kind s (run.arrivals r source live) =
      if r = s ∧ b then run.outDegree source else 0 := by
  unfold crewCount Run.arrivals
  rw [Multiset.countP_map]
  simp only [hk]
  by_cases h : r = s ∧ b = true
  · simp [h]
  · simp [h]

/-- The counts of a run are right. -/
structure Tally (S : Stage) (s : Nat) : Prop where
  unfinished : (S.runs s).unfinished = crewCount (fun _ => true) s S.crew
  permits : (S.runs s).free + (S.runs s).granted.length + crewCount Duty.holds s S.crew =
    (S.runs s).limits.parallel
  queue : (S.runs s).waiting.length + (S.runs s).granted.length = crewCount Duty.queues s S.crew
  busy : (S.runs s).waiting ≠ [] → (S.runs s).free = 0
  capacity : 0 < (S.runs s).limits.parallel

theorem account_update {S S' : Stage} {r : Nat} {run : Run}
    (runs : S'.runs = Function.update S.runs r run) (s : Nat) :
    (S'.runs s).account = if r = s then run.account else (S.runs s).account := by
  rw [runs, Function.update_apply]
  by_cases h : r = s
  · rw [if_pos h.symm, if_pos h]
  · rw [if_neg (Ne.symm h), if_neg h]

theorem account_fail (S : Stage) (r s : Nat) (node : String) (e : PipelineError) :
    ((S.fail r node e).runs s).account = (S.runs s).account :=
  S.lasting_fail r (fun _ _ _ _ => rfl) node e

theorem account_conclude (S : Stage) (r s : Nat) (b : Bool) :
    ((S.conclude r b).runs s).account = (S.runs s).account :=
  S.lasting_conclude r (fun _ _ _ _ => rfl) b

namespace Tally

variable {S S' : Stage} {r s : Nat} {d e : Duty} {rest : Multiset (Nat × Duty)}

/-- A tally needs the account of the run and the counts of its tasks only. -/
theorem of_counts (h : Tally S s) (account : (S'.runs s).account = (S.runs s).account)
    (own : crewCount (fun _ => true) s S'.crew = crewCount (fun _ => true) s S.crew)
    (held : crewCount Duty.holds s S'.crew = crewCount Duty.holds s S.crew)
    (queued : crewCount Duty.queues s S'.crew = crewCount Duty.queues s S.crew) : Tally S' s := by
  obtain ⟨hu, hp, hq, hb, hc⟩ := h
  simp only [Run.account, Prod.mk.injEq] at account
  obtain ⟨au, af, aw, ag, al⟩ := account
  exact ⟨by omega, by rw [ag]; omega, by rw [aw, ag]; omega, by rw [aw, af]; exact hb, by omega⟩

theorem turnTo (h : Tally S s) (crew : S.crew = (r, d) ::ₘ rest)
    (crew' : S'.crew = (r, e) ::ₘ rest) (holds : e.holds = d.holds) (queues : e.queues = d.queues)
    (account : (S'.runs s).account = (S.runs s).account) : Tally S' s := by
  refine h.of_counts account ?_ ?_ ?_ <;>
    simp only [crew, crew', crewCount_cons, holds, queues]

theorem release (h : Tally S s) (crew : S.crew = (r, d) ::ₘ rest)
    (crew' : S'.crew = (r, e) ::ₘ rest) (holds : d.holds = true) (holds' : e.holds = false)
    (queues : d.queues = false) (queues' : e.queues = false) {run : Run}
    (runs : S'.runs = Function.update S.runs r run)
    (released : run.account = (S.runs r).released.account) : Tally S' s := by
  have account := account_update runs s
  rw [released] at account
  by_cases hs : r = s
  · subst hs
    obtain ⟨hu, hp, hq, hb, hc⟩ := h
    simp only [crew, crewCount_cons, holds, queues] at hu hp hq
    rw [if_pos rfl] at account
    unfold Run.released at account
    cases hw : (S.runs r).waiting with
    | nil =>
      simp only [hw, Run.account, Prod.mk.injEq] at account
      obtain ⟨au, af, aw, ag, al⟩ := account
      constructor <;> simp only [crew', crewCount_cons, au, af, aw, ag, al, holds', queues'] <;>
        grind
    | cons t ts =>
      simp only [hw, Run.account, Prod.mk.injEq] at account
      obtain ⟨au, af, aw, ag, al⟩ := account
      constructor <;> simp only [crew', crewCount_cons, au, af, aw, ag, al, holds', queues'] <;>
        grind
  · rw [if_neg hs] at account
    refine h.of_counts account ?_ ?_ ?_ <;> simp [crew, crew', crewCount_cons, hs]

theorem join (h : Tally S s) {n : Nat} (news : Multiset (Nat × Duty))
    (crew : S.crew = (r, d) ::ₘ rest) (crew' : S'.crew = (r, .leaving) ::ₘ (news + rest))
    (holds : d.holds = false) (queues : d.queues = false)
    (own : ∀ s, crewCount (fun _ => true) s news = if r = s then n else 0)
    (held : ∀ s, crewCount Duty.holds s news = 0) (queued : ∀ s, crewCount Duty.queues s news = 0)
    {run : Run} (runs : S'.runs = Function.update S.runs r run)
    (joined : run.account = ((S.runs r).joinedBy n).account) : Tally S' s := by
  have account := account_update runs s
  rw [joined] at account
  by_cases hs : r = s
  · subst hs
    obtain ⟨hu, hp, hq, hb, hc⟩ := h
    simp only [crew, crewCount_cons, holds, queues] at hu hp hq
    rw [if_pos rfl] at account
    simp only [Run.account, Run.joinedBy, Prod.mk.injEq] at account
    obtain ⟨au, af, aw, ag, al⟩ := account
    constructor <;> simp only [crew', crewCount_cons, crewCount_add, own, held, queued, au, af, aw,
      ag, al, Duty.holds, Duty.queues] <;> grind
  · rw [if_neg hs] at account
    refine h.of_counts account ?_ ?_ ?_ <;>
      simp [crew, crew', crewCount_cons, crewCount_add, hs, own, held, queued]

/-- The tasks that arrive at the targets of a node count for the run, and neither hold a permit nor wait
for one. -/
theorem join_arrivals (h : Tally S s) {run' : Run} {node : String} {live : Bool}
    (crew : S.crew = (r, d) ::ₘ rest)
    (crew' : S'.crew = (r, .leaving) ::ₘ (run'.arrivals r node live + rest))
    (holds : d.holds = false) (queues : d.queues = false) {run : Run}
    (runs : S'.runs = Function.update S.runs r run)
    (joined : run.account = ((S.runs r).joinedBy (run'.outDegree node)).account) : Tally S' s := by
  refine h.join (run'.arrivals r node live) crew crew' holds queues ?_ ?_ ?_ runs joined
  · exact fun s => (crewCount_arrivals _ (fun _ _ _ => rfl) ..).trans (by simp)
  · exact fun s => (crewCount_arrivals _ (b := false) (fun _ _ _ => rfl) ..).trans (by simp)
  · exact fun s => (crewCount_arrivals _ (b := false) (fun _ _ _ => rfl) ..).trans (by simp)

theorem of_ne (h : Tally S s) (hs : r ≠ s) (crew : S.crew = (r, d) ::ₘ rest)
    (crew' : ∀ kind, crewCount kind s S'.crew = crewCount kind s rest)
    (run : S'.runs s = S.runs s) : Tally S' s := by
  refine h.of_counts (congrArg Run.account run) ?_ ?_ ?_ <;>
    simp [crew, crew', crewCount_cons, hs]

/-- The counts stay right in a move that lets no run begin. -/
theorem move_of_lt (m : Move r S S') (h : Tally S s) (hs : s < S.nextRun) : Tally S' s := by
  have set : ∀ x st, ((S.runs r).setStatus x st).account = (S.runs r).account :=
    fun x st => Run.account_changeNode ..
  cases m
  -- The task neither takes nor gives back a permit, and goes on working for the run.
  case giveUp d _ crew isOpen _ =>
    obtain ⟨_, _, _, rfl⟩ | ⟨_, rfl⟩ := Duty.eq_of_isOpen isOpen <;>
      exact h.turnTo crew rfl rfl rfl rfl
  case stray crew _ _ | lost crew _ _ _ _ | rest crew _ | resume crew | interrupt crew _
      | finish crew _ | doze crew _ =>
    exact h.turnTo crew rfl rfl rfl rfl
  case count source place live rest edge passed st crew _ _ _ _ =>
    refine h.turnTo crew rfl ?_ ?_ (Stage.lasting_update r rfl (Run.account_changeNode ..))
    all_goals cases (st.gate.arrive passed).2 <;> rfl
  case start crew _ _ _ =>
    exact h.turnTo crew rfl rfl rfl (Stage.lasting_update r rfl (set _ _))
  case halt crew _ =>
    exact h.turnTo crew rfl rfl rfl (Stage.lasting_update r rfl (by rfl))
  case refuse crew _ _ _ | unknown crew _ _ | unusable crew _ _ _ =>
    exact h.turnTo crew rfl rfl rfl (account_fail ..)
  case exceed crew _ _ _ _ =>
    exact h.turnTo crew rfl rfl rfl
      ((account_fail ..).trans (S.lasting_change r (by rfl)))
  case surface crew _ => exact h.turnTo crew rfl rfl rfl (account_conclude ..)
  case retreat crew _ => exact h.release crew rfl rfl rfl rfl rfl rfl rfl
  case abandon crew _ =>
    exact h.release crew rfl rfl rfl rfl rfl rfl (Run.account_changeNode ..)
  case settle crew _ _ =>
    exact h.release crew rfl rfl rfl rfl rfl rfl (Run.account_changeNode ..)
  case blame node _ _ rest crew _ _ =>
    have hr : Tally ((S.change r Run.released).withCrew ((r, .leaving) ::ₘ rest)) s :=
      h.release crew rfl rfl rfl rfl rfl rfl rfl
    exact hr.of_counts (account_fail (S.change r Run.released) r s ..) rfl rfl rfl
  case skip node rest crew =>
    refine h.join_arrivals crew rfl rfl rfl rfl ?_
    have ha := set node .skipped
    simp only [Run.account, Run.joinedBy, Prod.mk.injEq] at ha ⊢
    simp only [ha, and_self]
  case spread crew _ _ _ => exact h.join_arrivals crew rfl rfl rfl rfl rfl
  case jump node target rest crew _ _ _ =>
    refine h.join (n := 1) {(r, .dispatched target)} crew
      (by rw [Multiset.singleton_add]; rfl) rfl rfl ?_ ?_ ?_ rfl rfl
    all_goals
      intro s
      rw [← Multiset.cons_zero, crewCount_cons]
      simp [crewCount_zero, Duty.holds, Duty.queues]
  case enter t node rest n graph origin crew _ _ _ =>
    have hn : s ≠ S.nextRun := Nat.ne_of_lt hs
    refine h.of_counts ?_ ?_ ?_ ?_
    · have hr : ((S.change r fun run => run.setStatus node .running).runs s).account =
        (S.runs s).account := S.lasting_change r (set node .running)
      exact (congrArg Run.account (Function.update_of_ne hn _ _)).trans hr
    all_goals
      simp only [Stage.withCrew, crew, crewCount_cons]
      simp [Ne.symm hn, Duty.holds, Duty.queues]
  case conclude t posts cancelled _ _ =>
    have hc : (S.conclude r cancelled).crew = S.crew := (S.conclude_adds r cancelled).2.2.2.2
    exact h.of_counts (account_conclude S r s cancelled) (by simp only [hc]) (by simp only [hc])
      (by simp only [hc])
  case expire t posts _ _ =>
    have hc : ((S.cancel (S.runs r).context true).conclude r true).crew = S.crew :=
      (Stage.conclude_adds ..).2.2.2.2
    exact h.of_counts (account_conclude (S.cancel (S.runs r).context true) r s true)
      (by simp only [hc]) (by simp only [hc]) (by simp only [hc])
  -- The permits, the queue or the number of tasks change together with the task's duty.
  case take crew _ _ _ _ _ | queue crew _ _ _ _ _ | grant crew _ | withdraw crew _ _
      | close crew =>
    by_cases hr : r = s
    · subst hr
      obtain ⟨hu, hp, hq, hb, hc⟩ := h
      simp only [crew, crewCount_cons, Duty.holds, Duty.queues] at hu hp hq
      constructor <;> simp only [Stage.withCrew, Stage.change, Function.update_self, crewCount_cons,
        Duty.holds, Duty.queues] <;> grind
    · exact h.of_ne hr crew (fun kind => by simp [Stage.withCrew, crewCount_cons, hr])
        (Function.update_of_ne (Ne.symm hr) _ _)

theorem begun (ho : Orderly S) (m : Move r S S') (hne : S'.nextRun ≠ S.nextRun) :
    Tally S' S.nextRun := by
  cases m
  case enter t node rest n graph origin crew _ _ _ =>
    have hr := (ho.crew _ (crew ▸ Multiset.mem_cons_self _ _)).1
    have hrun := Stage.runs_begin_self ((S.change r fun run => run.setStatus node .running).say r
      (.nodeStarted node n.componentId)) graph (S.runs r).context t (S.runs r).limits
    have hrest : ∀ kind, crewCount kind S.nextRun rest = 0 := by
      refine fun kind => Multiset.countP_eq_zero.2 fun p hp hps => ?_
      have hlt := (ho.crew p (crew ▸ Multiset.mem_cons_of_mem hp)).1
      omega
    constructor <;> simp only [Stage.withCrew, crewCount_cons, hrest] <;> erw [hrun] <;>
      simp [Run.new, Run.joinedBy, Limits.atLeastOne, Duty.holds, Duty.queues, Nat.ne_of_lt hr]
  case refuse | unknown | unusable | exceed | blame => exact (hne (Stage.fail_adds ..).2.2.1).elim
  case surface | conclude | expire => exact (hne (Stage.conclude_adds ..).2.2.1).elim
  all_goals exact (hne rfl).elim

end Tally

theorem Launch.tally_opening (l : Launch) : Tally l.opening 0 := by
  constructor <;> simp only [opening, ← Multiset.cons_zero, crewCount_cons, Function.update_self] <;>
    simp [Run.new, Run.joinedBy, Limits.atLeastOne, crewCount_zero, Duty.holds, Duty.queues]

theorem Launch.tally_broken (l : Launch) : Tally l.broken 0 :=
  ⟨rfl, rfl, rfl, fun h => absurd rfl h, Nat.zero_lt_one⟩

theorem Course.tally {l : Launch} {past : List (World × Act)} {w : World}
    (h : Course l.world past w) {r : Nat} (hr : r < w.nextRun) :
    Tally (w.view (l.allDeeds past)) r := by
  have hall := h.invariant (P := fun S => Orderly S ∧ ∀ s, s < S.nextRun → Tally S s)
    (fun _ => ⟨l.orderly_opening, fun s hs => Nat.lt_one_iff.1 hs ▸ l.tally_opening⟩)
    (fun _ => ⟨l.orderly_broken, fun s hs => Nat.lt_one_iff.1 hs ▸ l.tally_broken⟩) ?_ ?_
  · exact hall.2 r hr
  · intro r S S' m hS
    refine ⟨hS.1.move m, fun s hs => ?_⟩
    rcases m.known_or_begun hs with hold | ⟨hn, rfl⟩
    · exact (hS.2 s hold).move_of_lt m hold
    · exact .begun hS.1 m hn
  · intro S c hS
    exact ⟨hS.1.cancel c, fun s hs => (hS.2 s hs).of_counts rfl rfl rfl rfl⟩

/-! ## Quiet worlds -/

/-- A task in the phase works for the run, at something of a kind. -/
def Phase.worksFor (kind : Duty → Bool) (r : Nat) : Phase → Bool
  | .duty s d => s == r && kind d
  | _ => false

theorem Phase.exists_of_worksFor {kind : Duty → Bool} {r : Nat} (p : Phase)
    (h : p.worksFor kind r = true) : ∃ d, p = .duty r d := by
  cases p with
  | duty s d =>
    rw [worksFor, Bool.and_eq_true, beq_iff_eq] at h
    exact ⟨d, by rw [h.1]⟩
  | _ => cases h

theorem crewCount_bind (kind : Duty → Bool) (r : Nat) (phase : Nat → Phase) (us : Multiset Nat) :
    crewCount kind r (us.bind fun u => (phase u).crew) =
      (us.filter fun u => (phase u).worksFor kind r).card := by
  induction us using Multiset.induction with
  | empty => rfl
  | cons u us ih =>
    rw [Multiset.cons_bind, crewCount_add, ih]
    cases hp : phase u with
    | duty s d =>
      rw [Phase.crew, ← Multiset.cons_zero, crewCount_cons, crewCount_zero]
      by_cases h : s = r ∧ kind d = true
      · rw [if_pos h, Multiset.filter_cons_of_pos]
        · rw [Multiset.card_cons]
          omega
        · simp [hp, Phase.worksFor, h]
      · rw [if_neg h, Multiset.filter_cons_of_neg]
        · omega
        · simpa [hp, Phase.worksFor] using h
    | _ =>
      rw [Multiset.filter_cons_of_neg _ (by simp [hp, Phase.worksFor])]
      exact Nat.zero_add _

namespace World

variable {w : World} {r : Nat}

theorem crewCount_view (kind : Duty → Bool) (L : List Deed) : crewCount kind r (w.view L).crew =
    ((Multiset.range w.nextTask).filter fun u => (w.tasks.get u).phase.worksFor kind r).card :=
  crewCount_bind kind r (fun u => (w.tasks.get u).phase) (Multiset.range w.nextTask)

theorem Awake.mem_crew (h : w.Awake) {u : Nat} {d : Duty} (hp : (w.tasks.get u).phase = .duty r d)
    (L : List Deed) : (r, d) ∈ (w.view L).crew := by
  refine h.mem_view_crew (t := u) ?_ L
  rw [hp]
  exact Multiset.mem_singleton_self _

theorem crewCount_view_eq_zero (kind : Duty → Bool) (L : List Deed)
    (h : ∀ u, (w.tasks.get u).phase.worksFor kind r = false) :
    crewCount kind r (w.view L).crew = 0 := by
  rw [crewCount_view, Multiset.card_eq_zero, Multiset.filter_eq_nil]
  exact fun u _ => by simp [h u]

theorem crewCount_view_le (kind : Duty → Bool) (L : List Deed) {us : List Nat}
    (h : ∀ u, (w.tasks.get u).phase.worksFor kind r → u ∈ us) :
    crewCount kind r (w.view L).crew ≤ us.length := by
  rw [crewCount_view, ← Multiset.coe_card]
  refine Multiset.card_le_card ((Multiset.le_iff_subset ?_).2 fun u hu => ?_)
  · exact (Multiset.nodup_range _).filter _
  · exact Multiset.mem_coe.2 (h u (Multiset.mem_filter.1 hu).2)

end World

section

variable {l : Launch} {past : List (World × Act)} {w : World}

/-- Whoever works in a quiet world waits for a permit, if nobody works for the later runs. -/
theorem Course.queues_of_quiet (h : Course l.world past w) (hq : w.Quiet) {r : Nat}
    (later : ∀ s, r < s → ∀ u, (w.tasks.get u).phase.worksFor (fun _ => true) s = false) {u : Nat}
    {d : Duty} (hp : (w.tasks.get u).phase = .duty r d) :
    r < w.nextRun ∧ d.queues ∧ d.holds = false ∧ u ∈ (w.runs.get r).waiting := by
  obtain ⟨hready, htimers⟩ := hq
  have ha := h.awake.alert u
  have hc := h.awake.mem_crew hp (l.allDeeds past)
  unfold World.Alert World.Needs at ha
  cases ht : w.tasks.get u with
  | awaiting s node =>
    rw [ht] at hp ha
    cases hp
    refine ⟨ha.1, rfl, rfl, ha.2.1.resolve_right fun hr => ?_⟩
    rw [hready] at hr
    exact List.not_mem_nil hr.2
  | nesting s node inner =>
    rw [ht] at hp ha
    cases hp
    obtain ⟨-, hlt, -, hminds, -⟩ := ha
    have hinner := (h.orderly.crew _ hc).2.1
    -- Nobody works for the run inside, so that its host was woken when it ended.
    have hz : (w.runs.get inner).unfinished = 0 := by
      rw [show (w.runs.get inner).unfinished = _ from (h.tally hlt).unfinished]
      exact World.crewCount_view_eq_zero _ _ (later inner hinner)
    have hm := hminds hz
    rw [hready] at hm
    exact absurd hm List.not_mem_nil
  | arriving s source place live =>
    rw [ht, hready] at ha
    exact absurd ha.2 List.not_mem_nil
  | dispatched s node =>
    rw [ht, hready] at ha
    exact absurd ha.2 List.not_mem_nil
  | pausing s node wakeAt next stopped =>
    rw [ht] at ha
    unfold World.Times at ha
    rw [htimers, hready] at ha
    rcases ha.2.1 with ht | ht
    · exact absurd ht List.not_mem_nil
    · exact absurd ht.2 List.not_mem_nil
  | _ =>
    rw [ht] at hp
    cases hp

/-- In a quiet world nobody works for a run if nobody works for the later ones. -/
theorem Course.idle_of_quiet (h : Course l.world past w) (hq : w.Quiet) {r : Nat}
    (later : ∀ s, r < s → ∀ u, (w.tasks.get u).phase.worksFor (fun _ => true) s = false) (u : Nat) :
    (w.tasks.get u).phase.worksFor (fun _ => true) r = false := by
  have queues := fun u d => h.queues_of_quiet hq later (u := u) (d := d)
  by_contra hu
  obtain ⟨d, hd⟩ := (w.tasks.get u).phase.exists_of_worksFor (Bool.eq_true_of_not_eq_false hu)
  obtain ⟨hlt, -, -, hmem⟩ := queues u d hd
  have ht := h.tally hlt
  have hheld : crewCount Duty.holds r (w.view (l.allDeeds past)).crew = 0 := by
    refine World.crewCount_view_eq_zero _ _ fun u => ?_
    cases hp : (w.tasks.get u).phase with
    | duty s d =>
      by_cases hs : s = r
      · subst hs
        simp [Phase.worksFor, (queues u d hp).2.2.1]
      · simp [Phase.worksFor, hs]
    | _ => rfl
  have hqueued : crewCount Duty.queues r (w.view (l.allDeeds past)).crew ≤
      (w.runs.get r).waiting.length := by
    refine World.crewCount_view_le _ _ fun u hu => ?_
    cases hp : (w.tasks.get u).phase with
    | duty s d =>
      simp only [hp, Phase.worksFor, Bool.and_eq_true, beq_iff_eq] at hu
      exact (queues u d (hu.1 ▸ hp)).2.2.2
    | _ => simp [hp, Phase.worksFor] at hu
  -- Nothing is free or held, and all that work are in the queue, so nothing was handed over either: the
  -- run would have no permits at all.
  have hfree : (w.runs.get r).free = 0 := ht.busy (List.ne_nil_of_mem hmem)
  have hpermits := ht.permits
  have hqueue := ht.queue
  have hcapacity := ht.capacity
  simp only [World.view, World.stage] at hpermits hqueue hcapacity hheld hqueued
  omega

theorem Course.no_crew_of_quiet (h : Course l.world past w) (hq : w.Quiet) (r u : Nat) :
    (w.tasks.get u).phase.worksFor (fun _ => true) r = false := by
  have hidle : ∀ n r, w.nextRun ≤ r + n → ∀ u,
      (w.tasks.get u).phase.worksFor (fun _ => true) r = false := by
    intro n
    induction n with
    | zero =>
      intro r hr u
      by_contra hu
      obtain ⟨d, hd⟩ := (w.tasks.get u).phase.exists_of_worksFor (Bool.eq_true_of_not_eq_false hu)
      have hlt := (h.orderly.crew _ (h.awake.mem_crew hd (l.allDeeds past))).1
      exact absurd hlt (Nat.not_lt_of_le hr)
    | succ n ih =>
      intro r hr
      exact h.idle_of_quiet hq fun s hs => ih s (by omega)
  exact hidle w.nextRun r (Nat.le_add_left _ _) u

theorem Course.over_of_quiet (h : Course l.world past w) (hq : w.Quiet) (u : Nat) :
    w.tasks.get u = .over := by
  have hidle := fun r => h.no_crew_of_quiet hq r u
  have ha := h.awake.alert u
  unfold World.Alert World.Needs at ha
  cases ht : w.tasks.get u with
  | «over» => rfl
  | launching =>
    rw [ht] at ha
    exact ha.elim
  | conducting r deadline =>
    rw [ht] at ha
    obtain ⟨hlt, -, hminds, -⟩ := ha
    have hz : (w.runs.get r).unfinished = 0 := by
      rw [show (w.runs.get r).unfinished = _ from (h.tally hlt).unfinished]
      exact World.crewCount_view_eq_zero _ _ fun u => h.no_crew_of_quiet hq r u
    have hm := hminds hz
    rw [hq.1] at hm
    exact absurd hm List.not_mem_nil
  | arriving r _ _ _ | dispatched r _ | awaiting r _ | pausing r _ _ _ _ | nesting r _ _ =>
    have hr := hidle r
    rw [ht] at hr
    simp [Task.phase, Phase.worksFor] at hr

/-- A task that conducts a run ends with what the run is concluded with. No other task ends so. -/
theorem Move.posts {S S' : Stage} {r : Nat} (m : Move r S S') :
    S'.posts = S.posts ∧ S'.endings = S.endings ∨ ∃ t result, S.posts = (t, r) ::ₘ S'.posts ∧
      S'.endings = Function.update S.endings t (some (.over result)) ∧
      .concluded r result ∈ S'.deeds := by
  cases m
  case refuse | unknown | unusable | exceed | blame =>
    exact .inl ⟨(Stage.fail_adds ..).2.2.2, Stage.endings_fail ..⟩
  case surface =>
    exact .inl ⟨(Stage.conclude_adds ..).2.2.2.1, Stage.endings_conclude ..⟩
  case conclude post _ | expire post _ =>
    exact .inr ⟨_, _, post, rfl, (Stage.conclude_adds ..).2.1 ▸ List.mem_cons_self⟩
  all_goals exact .inl ⟨rfl, rfl⟩

theorem Course.post (h : Course l.world past w) :
    (w.view (l.allDeeds past)).posts = {(0, 0)} ∧ w.endings.get 0 = none ∨
      (w.view (l.allDeeds past)).posts = 0 ∧ (w.endings.get 0).isSome := by
  have hall := h.invariant (P := fun S => S.posts = {(0, 0)} ∧ S.endings 0 = none ∨
    S.posts = 0 ∧ (S.endings 0).isSome) (fun _ => .inl ⟨rfl, rfl⟩) (fun _ => .inr ⟨rfl, rfl⟩) ?_
    fun _ h => h
  · simpa [World.view, World.stage] using hall
  · intro r S S' m hS
    rcases m.posts with ⟨hp, he⟩ | ⟨t, result, hp, he, -⟩
    · rw [hp, he]
      exact hS
    · rcases hS with ⟨hone, -⟩ | ⟨hzero, -⟩
      · rw [hone, ← Multiset.cons_zero, eq_comm, Multiset.cons_eq_cons] at hp
        rcases hp with ⟨ht, hz⟩ | ⟨-, _, -, hz⟩
        · cases ht
          exact .inr ⟨hz, by rw [he, Function.update_self]; rfl⟩
        · exact absurd hz Multiset.zero_ne_cons
      · exact absurd (hzero.symm.trans hp) Multiset.zero_ne_cons

theorem Course.ended_of_quiet (h : Course l.world past w) (hq : w.Quiet) :
    (w.endings.get 0).isSome := by
  refine (h.post.resolve_left fun hp => ?_).2
  have hm : (0, 0) ∈ (w.view (l.allDeeds past)).posts := by
    rw [hp.1]
    exact Multiset.mem_singleton_self _
  obtain ⟨u, -, hu⟩ := Multiset.mem_bind.1
    (show _ ∈ (Multiset.range w.nextTask).bind fun u => (w.tasks.get u).phase.posts u from hm)
  rw [h.over_of_quiet hq u] at hu
  exact Multiset.notMem_zero _ hu

end

end Conduit
