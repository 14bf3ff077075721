import Conduit.Proofs.Run.Conclusions
import Conduit.Proofs.Run.Limits
import Conduit.Proofs.Run.Refitting

/-!
# Slots

Nodes that are never dispatched do not matter: which components they have, and whether they can be used
at all, changes nothing. A run comes to a missing component if the first failure in it was the dispatch
of a node that cannot be used.
-/

namespace Conduit

/-! ## What is executed can be used -/

/-- The node can be used in the run. -/
def Stage.Equips (S : Stage) (r : Nat) (v : String) : Prop :=
  ∃ n, (S.runs r).graph.node? v = some n ∧ n.slot.isUsable

/-- The duty is to execute an activity of the node. -/
def Duty.performs (v : String) : Duty → Prop
  | .performing u _ => u = v
  | .pausing u _ _ _ => u = v
  | _ => False

/-- All that is executed, has been executed or has started is the component of a node that can be
used. -/
structure Equipped (S : Stage) : Prop where
  orderly : Orderly S
  crew : ∀ {r d v}, (r, d) ∈ S.crew → d.performs v → S.Equips r v
  started : ∀ {r v id}, (r, .nodeStarted v id) ∈ S.events → S.Equips r v
  performed : ∀ {r v touches result}, .performed r v touches result ∈ S.deeds → S.Equips r v

section

variable {S S' : Stage} {r q : Nat} {v : String}

theorem Stage.Equips.move (h : S.Equips q v) (ho : Orderly S) (m : Move r S S') : S'.Equips q v := by
  have hlt : q < S.nextRun := by
    by_contra hq
    obtain ⟨n, hn, -⟩ := h
    rw [ho.fresh q (Nat.le_of_not_lt hq)] at hn
    cases hn
  unfold Equips
  rw [m.graph hlt]
  exact h

theorem equips_of_slot {n : GraphNode Component} {component : Component} {origin : Origin}
    (hn : (S.runs r).graph.node? v = some n) (slot : n.slot = .ready component origin) :
    S.Equips r v :=
  ⟨n, hn, by rw [slot]; rfl⟩

theorem Move.performs (m : Move r S S') {d : Duty} (hd : (q, d) ∈ S'.crew) (hv : d.performs v) :
    (∃ e, (q, e) ∈ S.crew ∧ e.performs v) ∨ q = r ∧ S.Equips r v := by
  rcases m.comes hd with hd | comes
  · exact .inl ⟨d, hd, hv⟩
  cases comes with
  | started _ node_eq slot => exact .inr ⟨rfl, hv ▸ equips_of_slot node_eq slot⟩
  | dozed _ performing _ => exact .inl ⟨_, performing, hv⟩
  | resumed pausing => exact .inl ⟨_, pausing, hv⟩
  | interrupted pausing => exact .inl ⟨_, pausing, hv⟩
  | aside _ aside =>
    cases d with
    | performing | pausing => cases aside
    | _ => exact hv.elim
  | begun | entered | performed | surfaced | settled => exact hv.elim

theorem Move.started (m : Move r S S') {id : String} (he : (q, .nodeStarted v id) ∈ S'.events) :
    (q, .nodeStarted v id) ∈ S.events ∨ q = r ∧ S.Equips r v := by
  have other : ∀ {X : Stage} {x : Nat × Happening}, (q, .nodeStarted v id) ∈ X.events →
      X.events = x :: S.events → (∀ u i, x.2 ≠ .nodeStarted u i) →
      (q, .nodeStarted v id) ∈ S.events ∨ q = r ∧ S.Equips r v := by
    intro X x he hX hx
    rw [hX] at he
    rcases List.mem_cons.1 he with rfl | he
    · exact absurd rfl (hx v id)
    · exact .inl he
  have starts : ∀ {X : Stage} {node i : String}, (q, .nodeStarted v id) ∈ X.events →
      X.events = (r, .nodeStarted node i) :: S.events → S.Equips r node →
      (q, .nodeStarted v id) ∈ S.events ∨ q = r ∧ S.Equips r v := by
    intro X node i he hX hnode
    rw [hX] at he
    rcases List.mem_cons.1 he with he | he
    · cases he
      exact .inr ⟨rfl, hnode⟩
    · exact .inl he
  cases m
  case start _ _ node_eq slot => exact starts he rfl (equips_of_slot node_eq slot)
  case enter _ _ node_eq slot =>
    refine starts (X := Stage.say _ r _) ((List.mem_cons.1 he).resolve_left nofun) rfl ?_
    exact equips_of_slot node_eq slot
  case refuse | unknown | unusable | exceed | blame => exact other he (Stage.fail_adds ..).1 nofun
  case surface | conclude | expire =>
    obtain ⟨_, _, h⟩ := (Stage.conclude_adds ..).1
    exact other he h nofun
  case skip | abandon | settle => exact other he rfl nofun
  all_goals exact .inl he

theorem Equipped.move (h : Equipped S) (m : Move r S S') : Equipped S' where
  orderly := h.orderly.move m
  crew hd hv := by
    rcases m.performs hd hv with ⟨e, he, hv⟩ | ⟨rfl, hv⟩
    · exact (h.crew he hv).move h.orderly m
    · exact hv.move h.orderly m
  started he := by
    rcases m.started he with he | ⟨rfl, hv⟩
    · exact (h.started he).move h.orderly m
    · exact hv.move h.orderly m
  performed hd := by
    obtain ⟨news, hn, occasions⟩ := m.occasions
    rw [hn] at hd
    rcases List.mem_append.1 hd with hd | hd
    · cases occasions _ hd with
      | performed busy _ _ => exact (h.crew busy rfl).move h.orderly m
    · exact (h.performed hd).move h.orderly m

theorem Equipped.cancel (h : Equipped S) (c : Nat) : Equipped (S.cancel c true) :=
  ⟨h.orderly.cancel c, h.crew, h.started, h.performed⟩

end

section

variable {l : Launch} {past : List (World × Act)} {w : World}

theorem Course.equipped (h : Course l.world past w) : Equipped (w.view (l.allDeeds past)) := by
  refine h.invariant (fun _ => ⟨l.orderly_opening, ?_, ?_, nofun⟩)
    (fun _ => ⟨l.orderly_broken, ?_, ?_, nofun⟩) (fun m hS => hS.move m) fun c hS => hS.cancel c
  · intro r d v hd hv
    cases Multiset.mem_singleton.1 hd
    exact hv.elim
  · intro r v id he
    cases List.mem_singleton.1 he
  · intro r d v hd
    exact absurd hd (Multiset.notMem_zero _)
  · intro r v id he
    cases List.mem_singleton.1 he

theorem Course.not_executed_of_lacks (h : Course l.world past w) {r : Nat} {v reason : String}
    (lacks : (w.runs.get r).graph.Lacks v reason) :
    (∀ id, .nodeStarted v id ∉ w.happenings r) ∧
      ∀ touches result, .performed r v touches result ∉ l.allDeeds past := by
  obtain ⟨n, hn, slot⟩ := lacks
  have never : ¬(w.view (l.allDeeds past)).Equips r v := by
    rintro ⟨n', hn', usable⟩
    cases hn.symm.trans hn'
    rw [slot] at usable
    cases usable
  refine ⟨fun id he => ?_, fun touches result hd => never (h.equipped.performed hd)⟩
  obtain ⟨o, ho, hid⟩ := List.mem_map.1 he
  obtain ⟨ho, hr⟩ := List.mem_filter.1 ho
  have hview : (r, .nodeStarted v id) ∈ (w.view (l.allDeeds past)).events :=
    List.mem_map.2 ⟨o, ho, Prod.ext (eq_of_beq hr) hid⟩
  exact never (h.equipped.started hview)

/-! ## What a run comes to -/

/-- A run comes to its first failure. Without one it was cancelled or comes to how its nodes stand. -/
def Stage.Upholds (S : Stage) (s : Nat) (result : RunResult) : Prop :=
  match firstFailureIn s S.deeds with
  | some e => result = .error e
  | none => result = .error .cancelled ∨ ∃ outcome, result = .ok outcome

theorem Stage.Upholds.congr {S S' : Stage} {s : Nat} {result : RunResult} (h : S.Upholds s result)
    (hf : firstFailureIn s S'.deeds = firstFailureIn s S.deeds) : S'.Upholds s result := by
  unfold Upholds
  rw [hf]
  exact h

theorem Concluded.upholds_move {S S' : Stage} {r s : Nat} {result : RunResult} (h : Concluded S)
    (m : Move r S S') (hS : ∀ result, .concluded s result ∈ S.deeds → S.Upholds s result)
    (hd : .concluded s result ∈ S'.deeds) : S'.Upholds s result := by
  rcases m.effect h.rested.reported.oneContext with ⟨news, hn, hp, -⟩ |
    ⟨q, node, e, news, hn, hp, ⟨d, busy⟩, goesOn, -⟩ | ⟨q, begun, hn, -⟩
  · refine (hS result (concluded_append hp (hn ▸ hd))).congr ?_
    rw [hn, firstFailureIn_append hp]
  · rw [hn] at hd
    have hold := concluded_append hp ((List.mem_cons.1 hd).resolve_left nofun)
    -- Nobody is at work in a run that is over, unless it was cancelled.
    have hq : q ≠ s := by
      rintro rfl
      rcases (h.rested.isOver q result hold).2 with hc | idle
      · rw [hc] at goesOn
        cases goesOn
      · exact idle d busy
    refine (hS result hold).congr ?_
    rw [hn, firstFailureIn_failed hp, if_neg hq, Option.or_none]
  · have hf : firstFailureIn s S'.deeds = firstFailureIn s S.deeds := hn ▸ rfl
    by_cases hold : .concluded s result ∈ S.deeds
    · exact (hS result hold).congr hf
    rw [hn] at hd
    obtain ⟨rfl, rfl⟩ := Deed.concluded.inj ((List.mem_cons.1 hd).resolve_right hold)
    have hfailure := h.failure s (h.not_concluded_of_move m [_] hn List.mem_cons_self)
    unfold Stage.Upholds Run.resultIf
    rw [hf, hfailure]
    cases firstFailureIn s S.deeds with
    | some e => rfl
    | none =>
      dsimp only
      split
      · exact .inl rfl
      · exact .inr ⟨_, rfl⟩

theorem Course.upholds (h : Course l.world past w) {r : Nat} {result : RunResult}
    (hd : .concluded r result ∈ l.allDeeds past) : (w.view (l.allDeeds past)).Upholds r result := by
  refine (h.invariant (P := fun S => Concluded S ∧ ∀ r result, .concluded r result ∈ S.deeds →
    S.Upholds r result) (fun _ => ⟨l.concluded_opening, nofun⟩) (fun _ => ⟨l.concluded_broken, nofun⟩)
    (fun m hS => ⟨hS.1.move m, fun s _ => hS.1.upholds_move m (hS.2 s)⟩)
    fun c hS => ⟨hS.1.cancel c, fun s result hd => (hS.2 s result hd).congr rfl⟩).2 r result hd

/-- A run is concluded with an error that is no cancellation if that is its first failure. -/
theorem Course.result_eq_error_iff (h : Course l.world past w) {r : Nat} {result : RunResult}
    (hd : .concluded r result ∈ l.allDeeds past) {e : PipelineError} (he : e ≠ .cancelled) :
    result = .error e ↔ firstFailureIn r (l.allDeeds past) = some e := by
  have hu := h.upholds hd
  unfold Stage.Upholds at hu
  rw [show (w.view (l.allDeeds past)).deeds = l.allDeeds past from rfl] at hu
  cases hf : firstFailureIn r (l.allDeeds past) with
  | some e' =>
    rw [hf] at hu
    simp [hu]
  | none =>
    rw [hf] at hu
    rcases hu with rfl | ⟨outcome, rfl⟩ <;> simp [Ne.symm he]

end

/-! ## Missing components -/

theorem firstFailureIn_append_eq_or (r : Nat) (news deeds : List Deed) :
    firstFailureIn r (news ++ deeds) = (firstFailureIn r deeds).or (firstFailureIn r news) := by
  unfold firstFailureIn failures
  rw [List.filterMap_append, List.filterMap_append, List.getLast?_append]

/-- The first failure in a run was the dispatch of a node that cannot be used. -/
def Launch.FirstMisses (l : Launch) (past : List (World × Act)) (r : Nat) (v reason : String) : Prop :=
  ∃ newer u a older, past = newer ++ (u, a) :: older ∧ firstFailureIn r (l.allDeeds older) = none ∧
    u.dispatched? a = some (r, v) ∧ (u.runs.get r).graph.Lacks v reason

section

variable {l : Launch} {past : List (World × Act)} {w : World} {r : Nat} {v reason : String}

theorem Launch.firstFailureIn_nil (l : Launch) (r : Nat) : firstFailureIn r (l.allDeeds []) = none :=
  firstFailureIn_eq_none.2 fun node e hd => by
    obtain ⟨_, h⟩ := concluded_of_mem_deeds hd
    cases h

theorem Launch.firstMisses_iff : l.FirstMisses past r v reason ↔
    firstFailureIn r (l.allDeeds past) = some (.missingComponent v reason) := by
  have cons : ∀ u a past, firstFailureIn r (l.allDeeds ((u, a) :: past)) =
      (firstFailureIn r (l.allDeeds past)).or (firstFailureIn r (u.deeds a)) := by
    intro u a past
    rw [l.allDeeds_cons, firstFailureIn_append_eq_or]
  constructor
  · rintro ⟨newer, u, a, older, rfl, calm, dispatched, lacks⟩
    obtain ⟨news, hd, plain⟩ := World.deeds_of_lacks dispatched lacks
    have hact : firstFailureIn r (u.deeds a) = some (.missingComponent v reason) := by
      rw [hd, ← List.append_nil news, firstFailureIn_failed plain, if_pos rfl]
      rfl
    induction newer with
    | nil => rw [List.nil_append, cons, calm, hact, Option.none_or]
    | cons p newer ih => rw [List.cons_append, cons, ih, Option.some_or]
  · intro h
    induction past with
    | nil =>
      rw [l.firstFailureIn_nil] at h
      cases h
    | cons p past ih =>
      obtain ⟨u, a⟩ := p
      rw [cons] at h
      cases hf : firstFailureIn r (l.allDeeds past) with
      | some e =>
        rw [hf, Option.some_or] at h
        obtain ⟨newer, u', a', older, rfl, hfirst⟩ := ih (hf.trans h)
        exact ⟨(u, a) :: newer, u', a', older, rfl, hfirst⟩
      | none =>
        rw [hf, Option.none_or] at h
        obtain ⟨node, hd⟩ := exists_of_firstFailureIn h
        obtain ⟨-, dispatched, lacks⟩ := World.dispatched?_of_missing hd
        exact ⟨[], u, a, past, rfl, hf, dispatched, lacks⟩

theorem Launch.FirstMisses.onward (h : l.FirstMisses past r v reason) (newer : List (World × Act)) :
    l.FirstMisses (newer ++ past) r v reason := by
  obtain ⟨later, u, a, older, rfl, hfirst⟩ := h
  exact ⟨newer ++ later, u, a, older, (List.append_assoc ..).symm, hfirst⟩

theorem Course.missing_iff (h : Course l.world past w) {result : RunResult}
    (hd : .concluded r result ∈ l.allDeeds past) :
    result = .error (.missingComponent v reason) ↔ l.FirstMisses past r v reason :=
  (h.result_eq_error_iff hd (e := .missingComponent v reason) nofun).trans Launch.firstMisses_iff.symm

theorem Course.fits_of_firstMisses (h : Course l.world past w) (hfirst : l.FirstMisses past r v reason) :
    l.Fits := by
  obtain ⟨node, hd⟩ := exists_of_firstFailureIn (Launch.firstMisses_iff.1 hfirst)
  exact h.fits_of_mem hd

theorem Course.returned_missing_iff (h : Course l.world past w) {ending : Ending}
    (returned : w.returned = some ending) :
    ending = .over (.error (.missingComponent v reason)) ↔ l.FirstMisses past 0 v reason := by
  by_cases fits : l.Fits
  · obtain ⟨result, rfl, hd⟩ := h.over_of_returned fits returned
    rw [← h.missing_iff hd, Ending.over.injEq]
  -- With more permits than there can be, nothing is dispatched and no result is returned.
  · refine iff_of_false ?_ fun hfirst => fits (h.fits_of_firstMisses hfirst)
    rintro rfl
    cases returned.symm.trans (h.of_not_fits fits).2

theorem Course.lacks_of_mem (h : Course l.world past w) {u : World} {a : Act} (hm : (u, a) ∈ past)
    (lacks : (u.runs.get r).graph.Lacks v reason) : (w.runs.get r).graph.Lacks v reason := by
  obtain ⟨newer, older, rfl, hact⟩ := h.of_mem hm
  cases hact with
  | next _ before allowed =>
    obtain ⟨n, hn, slot⟩ := lacks
    obtain ⟨-, hlt, hact⟩ := before.strides_act a (before.lt_nextRun hn).1
    obtain ⟨-, -, hgraph⟩ := (before.next a allowed).strides h hlt
    exact ⟨n, by rw [hgraph, hact, hn], slot⟩

theorem Course.returns_missing (h : Course l.world past w) (sound : l.graph.IsSound)
    (hfirst : l.FirstMisses past 0 v reason) (σ : Schedule w) (fair : σ.IsFair) :
    ∃ i, (σ.world i).returned = some (.over (.error (.missingComponent v reason))) := by
  obtain ⟨i, quiet⟩ := σ.quiets fair h sound
  obtain ⟨newer, hi⟩ := σ.onward h i
  obtain ⟨ending, he⟩ := Option.isSome_iff_exists.1 (hi.ended_of_quiet quiet)
  have returned : (σ.world i).returned = some ending.1 := by
    unfold World.returned
    rw [he]
    rfl
  exact ⟨i, (hi.returned_missing_iff returned).2 (hfirst.onward newer) ▸ returned⟩

/-- Slots are seen at the dispatch of their nodes only. -/
theorem Course.slots_seen_at_dispatch (compiled : Compiled l.graph) (h : Course l.world past w) :
    (∀ (U : String → Prop) (g : Graph Component), l.graph.AgreesBut U g →
      (∀ p ∈ past, ∀ v, p.1.dispatched? p.2 = some (0, v) → ¬U v) →
      ∃ past' w', Course ({ l with graph := g } : Launch).world past' w' ∧
        (past'.map fun p => (p.1.bare, p.2)) = (past.map fun p => (p.1.bare, p.2)) ∧
        w'.bare = w.bare ∧ w'.events = w.events ∧ w'.contexts = w.contexts ∧
        w'.returned = w.returned) ∧
    (∀ r result v reason, .concluded r result ∈ l.allDeeds past →
      (result = .error (.missingComponent v reason) ↔ l.FirstMisses past r v reason)) ∧
    (∀ ending v reason, w.returned = some ending →
      (ending = .over (.error (.missingComponent v reason)) ↔ l.FirstMisses past 0 v reason)) ∧
    (∀ v reason, l.FirstMisses past 0 v reason → ∀ σ : Schedule w, σ.IsFair →
      ∃ i, (σ.world i).returned = some (.over (.error (.missingComponent v reason)))) ∧
    (∀ p ∈ past, ∀ r v reason, p.1.dispatched? p.2 = some (r, v) →
      (p.1.runs.get r).graph.Lacks v reason →
      ((p.1.act p.2).runs.get r).steps = (p.1.runs.get r).steps ∧
      (∀ id, .nodeStarted v id ∉ w.happenings r) ∧
      ∀ touches result, .performed r v touches result ∉ l.allDeeds past) := by
  refine ⟨fun U g agrees unseen => ?_, fun r result v reason hd => h.missing_iff hd,
    fun ending v reason => h.returned_missing_iff,
    fun v reason hfirst σ fair => h.returns_missing compiled.isSound hfirst σ fair,
    fun p hp r v reason dispatched lacks => ⟨p.1.steps_of_lacks dispatched lacks, ?_⟩⟩
  · obtain ⟨past', w', h', hpast, hbare⟩ :=
      h.of_agreesBut agrees compiled.isSound.isWellFormed.ids unseen
    exact ⟨past', w', h', hpast, hbare, (congrArg World.events hbare :),
      (congrArg World.contexts hbare :), (congrArg World.returned hbare :)⟩
  · exact h.not_executed_of_lacks (h.lacks_of_mem hp lacks)

end

/-! ## A broken node -/

namespace Broken

def create : Json → Except ComponentError Draft
  | .null => .ok (.plain "picky" .done)
  | _ => .error (.configuration "no parameters expected")

def factory : Factory := ⟨"picky", create, .null, "", "", false⟩

def compiler : Compiler := ⟨[("picky", ⟨"picky", factory, .null, .basic "picky" .done⟩)], false, 1⟩

def definition : Definition :=
  { Definition.new "broken" with nodes :=
    [{ NodeSpec.new "a" with base := some "picky", successors := ["b"] },
      { NodeSpec.new "b" with base := some "picky", parameter := .bool true }] }

def reason : String := "Configuration error: no parameters expected"

/-- A node and one after it, which has the slot. -/
def graph (slot : Slot Component) : Graph Component :=
  ⟨"broken", "a", [⟨"a", "picky", .ready (.basic "picky" .done) (.shared "picky"), [], [⟨"b", none⟩]⟩,
    ⟨"b", "picky", slot, ["a"], []⟩]⟩

theorem compiled : Compiled (graph (.unusable reason)) := by
  refine ⟨compiler, definition, 0, 0, fun p hp => ?_, .pause (.done _)⟩
  obtain rfl := List.mem_singleton.1 hp
  exact ⟨0, 0, rfl⟩

theorem agreesBut (slot slot' : Slot Component) :
    (graph slot).AgreesBut (· = "b") (graph slot') where
  pipeline := rfl
  root := rfl
  nodes := .cons ⟨rfl, fun _ => rfl⟩ (.cons ⟨rfl, fun h => absurd rfl h⟩ .nil)

def launch (slot : Slot Component) : Launch :=
  ⟨Http.unreachable, [], false, none, graph slot, ⟨1, 8⟩, none⟩

end Broken

/-- Until the broken node is dispatched, the same happens as if it had a component. Then the run comes
to the missing component. -/
theorem Course.slots_seen_at_dispatch_broken :
    ∃ past v newer w, Course (Broken.launch (.unusable Broken.reason)).world past v ∧
      Course (Broken.launch (.unusable Broken.reason)).world (newer ++ past) w ∧
      (∃ past' v', Course (Broken.launch (.ready (.basic "picky" .done) .own)).world past' v' ∧
        v'.events = v.events) ∧
      w.returned = some (.over (.error (.missingComponent "b" Broken.reason))) ∧
      (Broken.launch (.unusable Broken.reason)).FirstMisses (newer ++ past) 0 "b" Broken.reason ∧
      ∀ id, .nodeStarted "b" id ∉ w.happenings 0 := by
  have before := (Course.start : Course (Broken.launch (.unusable Broken.reason)).world [] _).step 1
    (by decide)
  have after : Course (Broken.launch (.unusable Broken.reason)).world ([_, _] ++ _) _ :=
    (before.step 2 (by decide)).step 0 (by decide)
  obtain ⟨same, -⟩ := Course.slots_seen_at_dispatch Broken.compiled before
  obtain ⟨-, -, returned, -, missed⟩ := Course.slots_seen_at_dispatch Broken.compiled after
  obtain ⟨past', v', h', -, -, hevents, -⟩ := same (· = "b") (Broken.graph _) (Broken.agreesBut ..)
    fun p hp u hu hb => by
      obtain rfl := List.mem_singleton.1 hp
      subst hb
      exact absurd hu (by decide)
  refine ⟨_, _, [_, _], _, before, after, ⟨past', v', h', hevents⟩, rfl, (returned _ _ _ rfl).1 rfl, ?_⟩
  obtain ⟨-, unstarted, -⟩ := missed _ (List.mem_cons_of_mem _ List.mem_cons_self) 0 "b" _ (by decide)
    ⟨_, rfl, rfl⟩
  exact unstarted

end Conduit
