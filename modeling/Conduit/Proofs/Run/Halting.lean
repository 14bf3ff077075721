import Conduit.Proofs.Run.Failures
import Conduit.Proofs.Run.JoinSafety
import Conduit.Proofs.Run.Strides
import Conduit.Proofs.Run.Telling

/-!
# Halts

From the step in which a run fails, ends early or is cancelled it only winds down: the executions that
are under way end, at most once each, and nothing else happens to its nodes, whatever its tasks were
about at that moment.
-/

namespace Conduit

namespace Happening

theorem isNode_of_ends {v : String} {e : Happening} (h : e.ends v) : e.isNode := by
  cases e with
  | nodeCompleted | nodeFailed => rfl
  | _ => cases h

theorem isNode_of_isOpening {e : Happening} (h : e.isOpening) : e.isNode := by
  cases e with
  | nodeStarted | nodeSkipped => rfl
  | _ => cases h

end Happening

/-! ## Executions under way -/

/-- The task executes the node of the run. -/
def Task.executes (r : Nat) (node : String) : Task → Bool
  | .pausing s v _ _ _ => s == r && v == node
  | .nesting s v _ => s == r && v == node
  | _ => false

/-- How many executions of a node of a run have started and not ended. -/
def World.underWay (w : World) (r : Nat) (node : String) : Nat :=
  (List.range w.nextTask).countP fun t => (w.tasks.get t).executes r node

theorem World.underWay_ledger (w : World) (L : List Deed) (r : Nat) (node : String) :
    ((w.view L).ledger r).errands.count (.during node) = w.underWay r node := by
  rw [count_errands]
  refine List.countP_congr fun u _ => Bool.eq_iff_iff.1 ?_
  cases w.tasks.get u with
  | arriving s source place live =>
    have hn : .during node ∉ (Duty.arriving source place live).errands (w.runs.get r).graph :=
      fun hm => by obtain ⟨_, h⟩ := Duty.mem_errands_arriving hm; cases h
    simp [Task.phase, Phase.worksFor, Task.executes, hn]
  | pausing s v _ _ _ | nesting s v _ =>
    simp only [Task.phase, Phase.worksFor, Task.executes, Duty.errands, Multiset.mem_singleton,
      Errand.during.injEq, eq_comm, beq_eq_decide]
  | _ => simp [Task.phase, Phase.worksFor, Task.executes, Duty.errands]

/-! ## Ledgers that wind down -/

namespace Ledger

/-- Nothing more is dispatched. -/
def stops (x : Ledger) : Bool := x.halted || x.cancelled

/-- Since it stopped the run has only been winding down. -/
structure WindsDown (x y : Ledger) : Prop where
  stops : y.stops
  /-- No skip is half done. -/
  skipping : ∀ v, .skipping v ∉ y.errands
  events : ∃ later, y.events = later ++ x.events ∧ (∀ e ∈ later, e.isOpening = false) ∧
    ∀ v, later.countP (Happening.ends v) + y.errands.count (.during v) ≤
      x.errands.count (.during v)
  deeds : ∃ later, y.deeds = later ++ x.deeds ∧ ∀ d ∈ later, d.isAsk = false

end Ledger

section

variable {g : Graph Component} {r : Nat} {x y z : Ledger}

theorem Stride.stops (h : Stride g r x y) (hx : x.stops) : y.stops := by
  unfold Ledger.stops at hx ⊢
  rw [Bool.or_eq_true] at hx ⊢
  exact hx.imp h.halted h.cancelled

theorem not_goesOn (hx : x.stops) : ¬(x.halted = false ∧ x.cancelled = false) := by
  rintro ⟨hh, hc⟩
  unfold Ledger.stops at hx
  rw [hh, hc] at hx
  cases hx

namespace Ledger.WindsDown

theorem drop (hw : WindsDown x y) {e : Errand} {rest : Multiset Errand}
    (errands : y.errands = e ::ₘ rest) (stops : z.stops) (hz : z.errands = rest)
    (events : z.events = y.events) (deeds : z.deeds = y.deeds) : WindsDown x z where
  stops := stops
  skipping v hm := hw.skipping v (errands ▸ Multiset.mem_cons_of_mem (hz ▸ hm))
  events := by
    obtain ⟨later, he, hopen, hcount⟩ := hw.events
    refine ⟨later, events.trans he, hopen, fun v => (Nat.add_le_add_left ?_ _).trans (hcount v)⟩
    rw [hz, errands]
    exact Multiset.count_le_count_cons ..
  deeds := deeds ▸ hw.deeds

theorem close (hw : WindsDown x y) (news : Multiset Errand) (asks : List Deed) {node : String}
    {rest : Multiset Errand} {e : Happening} (errands : y.errands = .during node ::ₘ rest) (stops : z.stops)
    (hz : z.errands = news + rest) (hnews : ∀ e ∈ news, ∃ v, e = .going v)
    (events : z.events = e :: y.events) (he : e.isOpening = false)
    (hends : ∀ v, e.ends v → node = v) (deeds : z.deeds = asks ++ y.deeds)
    (hasks : ∀ d ∈ asks, d.isAsk = false) : WindsDown x z where
  stops := stops
  skipping v hm := by
    rw [hz] at hm
    rcases Multiset.mem_add.1 hm with hm | hm
    · obtain ⟨u, hu⟩ := hnews _ hm
      cases hu
    · exact hw.skipping v (errands ▸ Multiset.mem_cons_of_mem hm)
  events := by
    obtain ⟨later, hl, hopen, hcount⟩ := hw.events
    refine ⟨e :: later, by rw [events, hl, List.cons_append], ?_, fun v => ?_⟩
    · intro d hd
      rcases List.mem_cons.1 hd with rfl | hd
      · exact he
      · exact hopen d hd
    · have hn : news.count (.during v) = 0 := by
        refine Multiset.count_eq_zero.2 fun hm => ?_
        obtain ⟨u, hu⟩ := hnews _ hm
        cases hu
      have hc := hcount v
      rw [errands, Multiset.count_cons] at hc
      rw [hz, Multiset.count_add, hn, List.countP_cons]
      have hv := hends v
      split <;> split at hc <;> simp_all <;> omega
  deeds := by
    obtain ⟨later, hl, hask⟩ := hw.deeds
    refine ⟨asks ++ later, by rw [deeds, hl, List.append_assoc], fun d hd => ?_⟩
    exact (List.mem_append.1 hd).elim (hasks d) (hask d)

theorem same (hw : WindsDown x y) (stops : z.stops) (errands : z.errands = y.errands)
    (events : z.events = y.events) (deeds : z.deeds = y.deeds) : WindsDown x z where
  stops := stops
  skipping := errands ▸ hw.skipping
  events := by
    rw [errands, events]
    exact hw.events
  deeds := deeds ▸ hw.deeds

theorem stride (h : Stride g r y z) (hw : WindsDown x y) : WindsDown x z := by
  have hs := h.stops hw.stops
  have hgo := not_goesOn hw.stops
  rcases h with h | ⟨-, goesOn⟩
  · cases h
    case drop errands _ => exact hw.drop errands hs rfl rfl rfl
    case halt errands => exact hw.drop errands hs rfl rfl rfl
    case skip errands => exact absurd (errands ▸ Multiset.mem_cons_self _ _) (hw.skipping _)
    case abandon node rest errands _ =>
      refine hw.close 0 [] errands hs (zero_add rest).symm (by simp) rfl rfl ?_
        (List.nil_append _).symm (by simp)
      exact fun v hv => eq_of_beq hv
    case blame node rest e errands =>
      refine hw.close 0 [_] errands hs (zero_add rest).symm (by simp) rfl rfl ?_ rfl
        (by simp [Deed.isAsk])
      exact fun v hv => eq_of_beq hv
    case settle node rest errands _ =>
      refine hw.close {.going node} [] errands hs (Multiset.singleton_add _ _).symm (by simp)
        rfl rfl ?_ (List.nil_append _).symm (by simp)
      exact fun v hv => eq_of_beq hv
    case stop | cancel => exact hw.same hs rfl rfl rfl
    all_goals exact absurd ‹_› hgo
  · exact absurd goesOn hgo

theorem strides (h : Strides g r y z) (hw : WindsDown x y) : WindsDown x z := by
  induction h with
  | refl => exact hw
  | tail _ h ih => exact ih.stride h

end Ledger.WindsDown

theorem Stride.executed (h : Stride g r x y) {v : String}
    (hx : x.errands.count (.during v) + x.completed v ≤ x.started v) :
    y.errands.count (.during v) + y.completed v ≤ y.started v := by
  rcases h with h | ⟨errands, goesOn⟩
  · exact Joins.executed_turn h hx
  · rw [errands, Multiset.count_cons_of_ne (by simp)] at hx
    rw [Multiset.count_cons_of_ne (by simp)]
    exact hx

end

/-! ## Halts -/

theorem Move.halted {S S' : Stage} {r s : Nat} (m : Move r S S') (ho : Orderly S)
    (h : (S.runs s).halted) : (S'.runs s).halted := by
  have hs : s < S.nextRun := by
    by_contra hge
    rw [ho.fresh s (Nat.le_of_not_lt hge)] at h
    cases h
  exact Strides.keep (P := fun _ _ x => x.halted) (fun ht hx => ht.halted hx) (m.strides ho hs) h

theorem Course.halted_of_failure {l : Launch} {past : List (World × Act)} {w : World}
    (h : Course l.world past w) {r : Nat} (hf : (w.runs.get r).failure.isSome) :
    (w.runs.get r).halted := by
  refine (h.invariant (P := fun S => OneContext S ∧ ∀ s, (S.runs s).failure.isSome →
    (S.runs s).halted) ?_ ?_ ?_ fun c hS => ⟨hS.1.cancel c, hS.2⟩).2 r hf
  · refine fun _ => ⟨l.oneContext_opening, fun s hs => ?_⟩
    rw [l.failure_opening] at hs
    cases hs
  · exact fun _ => ⟨l.oneContext_broken, nofun⟩
  · rintro r S S' m ⟨hsh, hS⟩
    have hkept : ∀ s, (S'.runs s).failure = (S.runs s).failure → (S'.runs s).failure.isSome →
        (S'.runs s).halted := fun s he hs => m.halted hsh.orderly (hS s (he ▸ hs))
    refine ⟨hsh.move m, fun s hs => ?_⟩
    rcases m.effect hsh with ⟨-, -, -, hf, -⟩ | ⟨q, -, -, -, -, -, -, -, hh, -, ho, -⟩ |
      ⟨q, -, -, hn, ho, -⟩
    · exact hkept s (hf s) hs
    · by_cases hq : s = q
      · exact hq ▸ hh
      · exact hkept s (ho s hq) hs
    · by_cases hq : s = q
      · rw [hq, hn] at hs
        cases hs
      · exact hkept s (ho s hq) hs

section

variable {l : Launch} {past newer : List (World × Act)} {v w : World} {r : Nat}

theorem Course.executed (h : Course l.world past w) (hr : r < w.nextRun) (v : String) :
    ((w.view (l.allDeeds past)).ledger r).errands.count (.during v) +
        ((w.view (l.allDeeds past)).ledger r).completed v ≤
      ((w.view (l.allDeeds past)).ledger r).started v := by
  by_cases fits : l.Fits
  · refine (h.ledgers_of_strides (G := fun _ => True) (P := fun _ _ x =>
      x.errands.count (.during v) + x.completed v ≤ x.started v)
      (fun _ _ _ _ _ _ _ _ => trivial) ?_ (fun _ ht hx => ht.executed hx) fits trivial hr).2
    intro g r limit cancelled _
    simp [Ledger.opening, Ledger.completed]
  · obtain ⟨cancelled, hv⟩ := h.view_of_not_fits fits
    rw [hv]
    have he : ({ l.broken with cancelled := cancelled }.ledger r).errands = 0 := rfl
    have hn : ({ l.broken with cancelled := cancelled }.ledger r).events = [] := by
      simp [Stage.ledger, Launch.broken, Happening.isNode]
    simp [Ledger.completed, he, hn]

/-- A run has failed, has completed a node when the end was asked for, or is cancelled. -/
def World.HaltedBy (v : World) (past : List (World × Act)) (r : Nat) : Prop :=
  (∃ u a, (u, a) ∈ past ∧ ((u.act a).runs.get r).failure.isSome) ∨
  (∃ u a node news, (u, a) ∈ past ∧ (u.act a).happenings r = news ++ u.happenings r ∧
    .nodeCompleted node ∈ news ∧ ((u.act a).contextOf r).values.endRequested) ∨
  (v.contextOf r).cancelled

theorem Strides.stops {g : Graph Component} {x y : Ledger} (h : Strides g r x y)
    (hx : x.stops) : y.stops :=
  Strides.keep (P := fun _ _ x => x.stops) (fun ht hx => ht.stops hx) h hx

theorem World.tells_happenings (u : World) (a : Act) (r : Nat) :
    ∃ news, (u.act a).happenings r = news ++ u.happenings r ∧
      (∀ e ∈ news.dropLast, e.isOpening = false) ∧ (∀ e ∈ news.tail, e.isClosing = false) ∧
      ((∃ node, .nodeCompleted node ∈ news) → (u.act a).EndsHalted r) := by
  obtain ⟨news, he, hopen, hclose, hends⟩ := u.tells_act a
  have hsub : (news.filter fun o => o.run == r).Sublist news := List.filter_sublist
  refine ⟨(news.filter fun o => o.run == r).map Occurrence.happening, ?_, ?_, ?_, ?_⟩
  · unfold happenings
    rw [he, List.filter_append, List.map_append]
  · intro e hm
    rw [← List.map_dropLast] at hm
    obtain ⟨o, ho, rfl⟩ := List.mem_map.1 hm
    have hd := hsub.reverse.tail
    rw [List.tail_reverse, List.tail_reverse, List.reverse_sublist] at hd
    exact hopen o (hd.subset ho)
  · intro e hm
    rw [← List.map_tail] at hm
    obtain ⟨o, ho, rfl⟩ := List.mem_map.1 hm
    exact hclose o (hsub.tail.subset ho)
  · rintro ⟨node, hm⟩
    obtain ⟨o, ho, hh⟩ := List.mem_map.1 hm
    obtain ⟨ho, hr⟩ := List.mem_filter.1 ho
    exact eq_of_beq hr ▸ hends o ho node hh

/-- A node that completes when the end is asked for halts its run. -/
theorem World.halted_of_completed {u : World} {a : Act} {node : String} {news : List Happening}
    (told : (u.act a).happenings r = news ++ u.happenings r) (completed : .nodeCompleted node ∈ news)
    (ends : ((u.act a).contextOf r).values.endRequested) : ((u.act a).runs.get r).halted := by
  obtain ⟨news', told', -, -, halts⟩ := u.tells_happenings a r
  obtain rfl : news' = news := List.append_cancel_right (told'.symm.trans told)
  exact halts ⟨node, completed⟩ ends

theorem World.HaltedBy.stops (halted : v.HaltedBy past r) (h : Course l.world past v) :
    ((v.view (l.allDeeds past)).ledger r).stops := by
  rcases halted with ⟨u, a, hm, hf⟩ | ⟨u, a, node, news, hm, he, hn, hends⟩ | hc
  · obtain ⟨newer, older, rfl, hu⟩ := h.of_mem hm
    have halted := hu.halted_of_failure hf
    exact (hu.strides h (hu.lt_nextRun_of_halted halted).1).1.stops
      (Bool.or_eq_true_iff.2 (.inl halted))
  · obtain ⟨newer, older, rfl, hu⟩ := h.of_mem hm
    have halted := World.halted_of_completed he hn hends
    exact (hu.strides h (hu.lt_nextRun_of_halted halted).1).1.stops
      (Bool.or_eq_true_iff.2 (.inl halted))
  · exact Bool.or_eq_true_iff.2 (.inr hc)

/-- In no world is a task in the middle of a skip. -/
theorem World.not_skipping (w : World) (L : List Deed) (r : Nat) (node : String) :
    .skipping node ∉ ((w.view L).ledger r).errands := by
  rw [← Multiset.count_eq_zero, count_errands, List.countP_eq_zero]
  intro u _
  cases w.tasks.get u with
  | arriving s source place live =>
    have hn : .skipping node ∉ (Duty.arriving source place live).errands (w.runs.get r).graph :=
      fun hm => by obtain ⟨_, h⟩ := Duty.mem_errands_arriving hm; cases h
    simp [Task.phase, Phase.worksFor, hn]
  | _ => simp [Task.phase, Phase.worksFor, Duty.errands]

theorem Course.happenings_append (h : Course l.world past v)
    (onward : Course l.world (newer ++ past) w) (r : Nat) :
    ∃ later, w.happenings r = later ++ v.happenings r := by
  induction newer generalizing w with
  | nil => exact ⟨[], congrArg (World.happenings · r) (onward.unique h)⟩
  | cons p newer ih =>
    cases onward with
    | next a before _ =>
      obtain ⟨later, hl⟩ := ih before
      obtain ⟨news, he, -⟩ := World.tells_happenings _ a r
      exact ⟨news ++ later, by rw [he, hl, List.append_assoc]⟩

/-- Once a run has halted, what else happens to its nodes is that executions that are under way end,
at most once each. Nothing is started or skipped any more, and no condition is asked for. -/
theorem Course.halted_winds_down (h : Course l.world past v) (hr : r < v.nextRun)
    (halted : v.HaltedBy past r) (onward : Course l.world (newer ++ past) w) :
    (∃ later, w.happenings r = later ++ v.happenings r ∧ (∀ e ∈ later, e.isOpening = false) ∧
      ∀ node, later.countP (Happening.ends node) ≤ v.underWay r node) ∧
    (∀ node, v.underWay r node + (v.happenings r).countP (Happening.completes node) ≤
      (v.happenings r).countP (Happening.starts node)) ∧
    (∀ source target, .asked r source target ∉ deedsOf newer) ∧
    ∀ u a, (u, a) ∈ past →
      ∃ news, (u.act a).happenings r = news ++ u.happenings r ∧
        (∀ e ∈ news.dropLast, e.isOpening = false) ∧ (∀ e ∈ news.tail, e.isClosing = false) ∧
        ∀ source target, .asked r source target ∉ (u.deeds a).dropLast := by
  have hevents := fun u : World => fun L => u.events_ledger L r
  obtain ⟨hs, -, -⟩ := h.strides onward hr
  have hw := Ledger.WindsDown.strides hs (x := (v.view (l.allDeeds past)).ledger r)
    ⟨halted.stops h, v.not_skipping _ r, ⟨[], rfl, nofun, fun _ => by simp⟩, ⟨[], rfl, nofun⟩⟩
  refine ⟨?_, ?_, ?_, ?_⟩
  · obtain ⟨later, hl⟩ := h.happenings_append onward r
    -- The ledger holds the happenings at nodes, and no other kind opens anything.
    obtain ⟨nodes, he, hopen, hcount⟩ := hw.events
    have hnodes : nodes = later.filter Happening.isNode := by
      rw [hevents, hevents, hl, List.filter_append] at he
      exact (List.append_cancel_right he).symm
    refine ⟨later, hl, fun e hm => ?_, fun node => ?_⟩
    · by_contra hopening
      have hopening := Bool.eq_true_of_not_eq_false hopening
      have hn := hopen e (hnodes ▸ List.mem_filter.2 ⟨hm, Happening.isNode_of_isOpening hopening⟩)
      cases hn.symm.trans hopening
    · have hends := Happening.countP_isNode later (f := Happening.ends node) fun _ =>
        Happening.isNode_of_ends
      have hc := hcount node
      rw [hnodes, hends, World.underWay_ledger, World.underWay_ledger] at hc
      omega
  · intro node
    have hx := h.executed hr node
    rwa [World.underWay_ledger, World.started_ledger, World.completed_ledger] at hx
  · intro source target hd
    obtain ⟨deeds, he, hask⟩ := hw.deeds
    have hdeeds : deeds = (deedsOf newer).filter fun d => d.isIn r := by
      have he : (l.allDeeds (newer ++ past)).filter (fun d => d.isIn r) =
          deeds ++ (l.allDeeds past).filter fun d => d.isIn r := he
      rw [l.allDeeds_append, List.filter_append] at he
      exact (List.append_cancel_right he).symm
    have hm := hask _ (hdeeds ▸ List.mem_filter.2 ⟨hd, beq_self_eq_true r⟩)
    cases hm
  · intro u a _
    obtain ⟨news, he, hopen, hclose, -⟩ := u.tells_happenings a r
    refine ⟨news, he, hopen, hclose, fun source target hd => ?_⟩
    cases u.asks_deeds a _ hd

end

/-! ## A fork -/

namespace Fork

def wait : Activity := .pause 10 .done .done

def node (id : String) (predecessors successors : List String) (activity : Activity) :
    GraphNode Component :=
  ⟨id, "basic", .ready (.basic "basic" activity) (.shared "basic"), predecessors,
    successors.map fun v => ⟨v, none⟩⟩

/-- A node and two nodes after it, one of which takes a while. -/
def graph : Graph Component :=
  ⟨"fork", "a", [node "a" [] ["b", "c"] .done, node "b" ["a"] [] wait, node "c" ["a"] [] .done]⟩

def launch : Launch := ⟨Http.unreachable, [], false, none, graph, ⟨2, 8⟩, none⟩

end Fork

/-- A fork is cancelled while one branch executes and the other has not been taken yet. -/
theorem halted_winds_down_fork : ∃ past newer v w, Course Fork.launch.world past v ∧
    Course Fork.launch.world (newer ++ past) w ∧ v.HaltedBy past 0 ∧
    (∃ later, w.happenings 0 = later ++ v.happenings 0 ∧ (∀ e ∈ later, e.isOpening = false) ∧
      later.countP (Happening.ends "b") ≤ v.underWay 0 "b") ∧
    v.underWay 0 "b" = 1 ∧ (v.happenings 0).countP (Happening.ends "b") = 0 ∧
    (w.happenings 0).countP (Happening.ends "b") = 1 := by
  have h := (((Course.start : Course Fork.launch.world [] _).step 1 (by decide)).step 2
    (by decide)).next (.cancel 0) trivial
  have onward : Course Fork.launch.world ([_, _] ++ _) _ :=
    (h.step 3 (by decide)).step 2 (by decide)
  refine ⟨_, [_, _], _, _, h, onward, .inr (.inr (by decide)), ?_, by decide, by decide, by decide⟩
  obtain ⟨⟨later, hl, hopen, hcount⟩, -⟩ := h.halted_winds_down (r := 0) (by decide)
    (.inr (.inr (by decide))) onward
  exact ⟨later, hl, hopen, hcount "b"⟩

end Conduit
