import Conduit.Proofs.Run.Joins
import Conduit.Proofs.Run.Returning
import Conduit.Proofs.Run.Single

/-!
# First failures

The first failure decides what comes of a run: its error is the run's, and its text stands in the
context from then on. A run without failures ends as cancelled or succeeds, with no node left running.
-/

namespace Conduit

/-! ## The first failure -/

def firstFailure (deeds : List Deed) : Option (Nat × PipelineError) := (failures deeds).getLast?

theorem firstFailure_append {news : List Deed} (h : ∀ d ∈ news, d.isPlain) (deeds : List Deed) :
    firstFailure (news ++ deeds) = firstFailure deeds := congrArg List.getLast? (failures_append h deeds)

theorem firstFailure_failed {news : List Deed} (h : ∀ d ∈ news, d.isPlain) (s : Nat) (node : String)
    (e : PipelineError) (deeds : List Deed) :
    firstFailure (.failed s node e :: (news ++ deeds)) = (firstFailure deeds).or (some (s, e)) := by
  have hf : failures (.failed s node e :: (news ++ deeds)) = (s, e) :: failures deeds := by
    rw [← failures_append h deeds]
    rfl
  unfold firstFailure
  rw [hf, List.getLast?_cons]
  cases (failures deeds).getLast? <;> rfl

theorem firstFailure_of_older {deeds : List Deed} {f : Nat × PipelineError}
    (h : firstFailure deeds = some f) (news : List Deed) : firstFailure (news ++ deeds) = some f := by
  unfold firstFailure failures at h ⊢
  rw [List.filterMap_append, List.getLast?_append, h]
  rfl

/-! ## What the context says -/

/-- The context says what the first failure says, and otherwise nothing or that the run was cancelled. -/
structure Told (S : Stage) : Prop where
  failed : ∀ f, firstFailure S.deeds = some f → S.error = some (.string f.2.message)
  calm : firstFailure S.deeds = none → S.error = none ∨
    S.cancelled 0 = true ∧ S.error = some (.string PipelineError.cancelled.message)

theorem Told.move {S S' : Stage} {r : Nat} (h : Reported S) (told : Told S) (m : Move r S S')
    (untouched : Untouched Values.errorKey S'.deeds) : Told S' := by
  rcases m.effect h.oneContext with ⟨news, hd, hp, -, herr, -⟩ |
    ⟨s, node, e, news, hd, hp, -, goesOn, -, -, -, herr, -⟩ | ⟨s, -, hd, -, -, -, herr, -⟩
  · have hf : firstFailure S'.deeds = firstFailure S.deeds := hd ▸ firstFailure_append hp _
    have herr := herr.eq (untouched.mono (hd ▸ List.subset_append_left _ _))
    refine ⟨fun f hs => herr.trans (told.failed f (hf ▸ hs)), fun hn => ?_⟩
    rw [herr]
    exact (told.calm (hf ▸ hn)).imp_right fun hc => ⟨m.cancelled hc.1, hc.2⟩
  · have hf : firstFailure S'.deeds = (firstFailure S.deeds).or (some (s, e)) :=
      hd ▸ firstFailure_failed hp ..
    cases hold : firstFailure S.deeds with
    | none =>
      -- The failure is the first one, and its text is written because no text is there.
      have hn : (S.runs s).failure = none := by
        cases hk : (S.runs s).failure with
        | none => rfl
        | some e' =>
          have hm := h.failure s e' hk
          rw [List.getLast?_eq_none_iff.1 hold] at hm
          cases hm
      have hempty : S.error = none := (told.calm hold).resolve_right fun hc => by
        rw [hc.1] at goesOn
        cases goesOn
      rw [hold] at hf
      rw [hn, hempty] at herr
      refine ⟨fun f hs => ?_, fun hs => nomatch hs.symm.trans hf⟩
      obtain rfl : (s, e) = f := Option.some.inj (hf.symm.trans hs)
      exact herr
    | some f =>
      have htext := told.failed f hold
      rw [hold] at hf
      rw [htext, Option.some_or, ite_self] at herr
      refine ⟨fun f' hs => ?_, fun hs => nomatch hs.symm.trans hf⟩
      obtain rfl : f = f' := Option.some.inj (hf.symm.trans hs)
      exact herr
  · have hf : firstFailure S'.deeds = firstFailure S.deeds := hd ▸ rfl
    refine ⟨fun f hs => ?_, fun hn => ?_⟩
    · rw [told.failed f (hf ▸ hs), Option.some_or, ite_self] at herr
      exact herr
    · rw [herr]
      rcases told.calm (hf ▸ hn) with hnone | ⟨hc, hsome⟩
      · rw [hnone]
        split
        · next hb => exact .inr ⟨(Bool.and_eq_true_iff.1 hb).2, rfl⟩
        · exact .inl rfl
      · rw [hsome, Option.some_or, ite_self]
        exact .inr ⟨m.cancelled hc, rfl⟩

theorem Told.cancel {S : Stage} (h : Told S) (c : Nat) : Told (S.cancel c true) :=
  ⟨h.failed, fun hn => (h.calm hn).imp_right fun hc => ⟨Stage.cancelled_cancel _ c true hc.1, hc.2⟩⟩

theorem Course.told {l : Launch} {past : List (World × Act)} {w : World} (h : Course l.world past w)
    (clean : Entries.get? l.values Values.errorKey = none)
    (untouched : Untouched Values.errorKey (l.allDeeds past)) : Told (w.view (l.allDeeds past)) := by
  refine (h.invariant (P := fun S => Reported S ∧ (Untouched Values.errorKey S.deeds → Told S))
    ?_ ?_ ?_ ?_).2 untouched
  · exact fun _ => ⟨l.reported_opening, fun _ => ⟨nofun, fun _ => .inl clean⟩⟩
  · exact fun _ => ⟨l.reported_broken, fun _ => ⟨nofun, fun _ => .inl clean⟩⟩
  · exact fun m hS => ⟨hS.1.move m, fun hu => (hS.2 (hu.mono m.deeds_subset)).move hS.1 m hu⟩
  · exact fun c hS => ⟨hS.1.cancel c, fun hu => (hS.2 hu).cancel c⟩

/-! ## What comes of a run -/

/-- The result is what the first failure makes of a run, or a cancellation if there is none. -/
def Stage.Confirms (S : Stage) (result : RunResult) : Prop :=
  match firstFailure S.deeds with
  | some f => result = .error f.2
  | none =>
    result = .error .cancelled ∧ S.error = some (.string PipelineError.cancelled.message) ∨
      ∃ outcome, result = .ok outcome

theorem Told.error_of_confirms {S : Stage} (told : Told S) {e : PipelineError}
    (h : S.Confirms (.error e)) : S.error = some (.string e.message) := by
  unfold Stage.Confirms at h
  cases hf : firstFailure S.deeds with
  | some f =>
    rw [hf] at h
    exact Except.error.inj h ▸ told.failed f hf
  | none =>
    rw [hf] at h
    rcases h with ⟨he, htext⟩ | ⟨_, he⟩
    · exact Except.error.inj he ▸ htext
    · cases he

/-- The only run keeps its first failure until it ends with it. Once it has ended nothing happens any
more, unless it was cancelled. -/
structure Decided (S : Stage) : Prop where
  underWay : S.endings 0 = none →
    S.posts = {(0, 0)} ∧ (S.runs 0).failure = (firstFailure S.deeds).map Prod.snd
  ended : ∀ ending, S.endings 0 = some ending → S.posts = 0 ∧
    (S.cancelled 0 = true ∨ S.crew = 0) ∧ ∃ result, ending = .over result ∧ S.Confirms result

theorem Move.crew_eq_zero {S S' : Stage} {r : Nat} (m : Move r S S') (h : S.crew = 0) :
    S'.crew = 0 := by
  cases m
  case conclude | expire => exact (Stage.conclude_adds ..).2.2.2.2.trans h
  all_goals exact absurd (h.symm.trans ‹_›) Multiset.zero_ne_cons

namespace Decided

variable {g : Graph Component} {S S' : Stage}

theorem idle (h : Single g S) (hz : (S.runs 0).unfinished = 0) : S.crew = 0 := by
  refine Multiset.eq_zero_of_forall_notMem fun p hp => ?_
  have hlt := (h.orderly.crew p hp).1
  rw [h.nextRun, Nat.lt_one_iff] at hlt
  exact Multiset.countP_eq_zero.1 (h.tally.unfinished.symm.trans hz) p hp ⟨hlt, rfl⟩

theorem confirms (told : Told S) (deeds : firstFailure S'.deeds = firstFailure S.deeds)
    (failure : (S.runs 0).failure = (firstFailure S.deeds).map Prod.snd)
    (error : S'.error = if (S.runs 0).failure.isNone && S'.cancelled 0 then
      S.error.or (some (.string PipelineError.cancelled.message)) else S.error) :
    S'.Confirms ((S.runs 0).resultIf (S'.cancelled 0)) := by
  unfold Stage.Confirms Run.resultIf
  rw [deeds]
  cases hf : firstFailure S.deeds with
  | some f =>
    rw [hf] at failure
    rw [failure]
    rfl
  | none =>
    rw [hf] at failure
    rw [failure] at error ⊢
    cases hc : S'.cancelled 0 with
    | false => exact .inr ⟨_, rfl⟩
    | true =>
      refine .inl ⟨rfl, ?_⟩
      rw [hc] at error
      rcases told.calm hf with hnone | ⟨-, hsome⟩
      · rw [error, hnone]
        rfl
      · rw [error, hsome]
        rfl

theorem move (single : Single g S) (reported : Reported S) (told : Told S) (h : Decided S)
    (m : Move 0 S S') (untouched : Untouched Values.errorKey S'.deeds) : Decided S' := by
  have first : ∀ {s}, s < S.nextRun → s = 0 := by
    intro s hs
    rw [single.nextRun] at hs
    exact Nat.lt_one_iff.1 hs
  have stays : ∀ {ending}, S.endings 0 = some ending → (S'.cancelled 0 = true ∨ S'.crew = 0) :=
    fun he => (h.ended _ he).2.1.imp m.cancelled m.crew_eq_zero
  rcases m.effect reported.oneContext with ⟨news, hd, hp, hk, herr, hposts, hends⟩ |
    ⟨s, node, e, news, hd, hp, ⟨d, busy⟩, goesOn, -, hk, -, -, hposts, hends⟩ |
    ⟨s, begun, hd, -, -, isOver, herr, posts⟩
  -- Nothing fails, and nothing is concluded.
  · have hf : firstFailure S'.deeds = firstFailure S.deeds := hd ▸ firstFailure_append hp _
    have herr := herr.eq (untouched.mono (hd ▸ List.subset_append_left _ _))
    refine ⟨fun hn => ?_, fun ending he => ?_⟩
    · rw [hposts, hk, hf]
      exact h.underWay (hends ▸ hn)
    · rw [hends] at he
      obtain ⟨hz, -, result, hr, hc⟩ := h.ended ending he
      refine ⟨hposts.trans hz, stays he, result, hr, ?_⟩
      unfold Stage.Confirms at hc ⊢
      rw [hf, herr]
      exact hc
  -- The run fails: it cannot have been returned, as somebody works for it and it was not cancelled.
  · obtain rfl := first (single.orderly.crew _ busy).1
    have hf : firstFailure S'.deeds = (firstFailure S.deeds).or (some (0, e)) :=
      hd ▸ firstFailure_failed hp ..
    refine ⟨fun hn => ?_, fun ending he => ?_⟩
    · obtain ⟨hz, hold⟩ := h.underWay (hends ▸ hn)
      refine ⟨hposts.trans hz, ?_⟩
      rw [hk, hf, hold]
      cases firstFailure S.deeds <;> rfl
    · rw [hends] at he
      rcases (h.ended ending he).2.1 with hc | hc
      · rw [hc] at goesOn
        cases goesOn
      · rw [hc] at busy
        exact absurd busy (Multiset.notMem_zero _)
  -- The run is concluded, and what it is concluded with is returned.
  · obtain rfl := first begun
    have hf : firstFailure S'.deeds = firstFailure S.deeds := hd ▸ rfl
    rcases posts with ⟨t, hposts, hends⟩ | ⟨q, node, hm⟩
    swap
    · exact absurd hm single.not_nesting
    cases he : S.endings 0 with
    | some ending =>
      obtain ⟨hz, -⟩ := h.ended ending he
      exact absurd (hz.symm.trans hposts) Multiset.zero_ne_cons
    | none =>
      obtain ⟨hone, hold⟩ := h.underWay he
      obtain ⟨rfl, hz⟩ : t = 0 ∧ S'.posts = 0 := by
        rw [hone, ← Multiset.cons_zero, eq_comm, Multiset.cons_eq_cons] at hposts
        rcases hposts with ⟨ht, hz⟩ | ⟨-, _, -, hz⟩
        · exact ⟨congrArg Prod.fst ht, hz⟩
        · exact absurd hz Multiset.zero_ne_cons
      refine ⟨fun hn => ?_, fun ending hs => ?_⟩
      · rw [hends, Function.update_self] at hn
        cases hn
      · rw [hends, Function.update_self] at hs
        cases hs
        refine ⟨hz, isOver.imp_right fun hu => m.crew_eq_zero (idle single hu), _, rfl, ?_⟩
        exact confirms told hf hold herr

end Decided

section

variable {l : Launch} {past : List (World × Act)} {w : World}

theorem Course.decided (h : Course l.world past w) (flat : l.graph.IsFlat) (fits : l.Fits)
    (clean : Entries.get? l.values Values.errorKey = none)
    (untouched : Untouched Values.errorKey (l.allDeeds past)) :
    Single l.graph (w.view (l.allDeeds past)) ∧ Decided (w.view (l.allDeeds past)) := by
  refine (Course.single (P := fun S => Reported S ∧ (Untouched Values.errorKey S.deeds →
    Told S ∧ Decided S)) flat fits ?_ ?_ ?_ h).imp_right fun hP => (hP.2 untouched).2
  · exact ⟨l.reported_opening, fun _ => ⟨⟨nofun, fun _ => .inl clean⟩, ⟨fun _ => ⟨rfl, rfl⟩, nofun⟩⟩⟩
  · rintro S S' single m ⟨hr, hS⟩
    refine ⟨hr.move m, fun hu => ?_⟩
    obtain ⟨ht, hd⟩ := hS (hu.mono m.deeds_subset)
    exact ⟨ht.move hr m hu, hd.move single hr ht m hu⟩
  · rintro S c - ⟨hr, hS⟩
    refine ⟨hr.cancel c, fun hu => ⟨(hS hu).1.cancel c, (hS hu).2.underWay, fun ending he => ?_⟩⟩
    obtain ⟨hz, hc, hresult⟩ := (hS hu).2.ended ending he
    exact ⟨hz, hc.imp_left (Stage.cancelled_cancel _ c true), hresult⟩

end

/-! ## Where the nodes stand -/

theorem Entries.get?_ofPairs {α : Type} {P : α → Prop} {pairs : List (String × α)}
    (h : ∀ p ∈ pairs, P p.2) {key : String} {value : α}
    (hv : (ofPairs pairs).get? key = some value) : P value := by
  have hall : ∀ (pairs : List (String × α)) (acc : Entries α), (∀ p ∈ pairs, P p.2) →
      (∀ k v, acc.get? k = some v → P v) →
      ∀ k v, (pairs.foldl (fun acc p => acc.insert p.1 p.2) acc).get? k = some v → P v := by
    intro pairs
    induction pairs with
    | nil => exact fun acc _ hacc => hacc
    | cons p pairs ih =>
      intro acc hp hacc
      refine ih _ (fun q hq => hp q (List.mem_cons_of_mem _ hq)) fun k v hk => ?_
      rw [get?_insert] at hk
      split at hk
      · exact Option.some.inj hk ▸ hp p List.mem_cons_self
      · exact hacc k v hk
  exact hall pairs [] h nofun key value hv

/-- A node is running only while it is executed, and has failed only if something failed or the run was
cancelled. -/
structure Marked (r : Nat) (x : Ledger) : Prop where
  running : ∀ v s, x.nodes v = some s → s.status = .running → .during v ∈ x.errands
  failed : ∀ v s, x.nodes v = some s → s.status = .failed →
    x.cancelled = true ∨ ∃ node e, .failed r node e ∈ x.deeds

namespace Marked

variable {g : Graph Component} {r : Nat} {x y : Ledger}

theorem opening (g : Graph Component) (r limit : Nat) (cancelled : Bool) :
    Marked r (Ledger.opening g limit cancelled) := by
  have pending : ∀ v s, (Run.initialNodes g).get? v = some s → s.status = .pending := by
    intro v s hs
    refine Entries.get?_ofPairs (P := fun s : NodeState => s.status = .pending) (fun p hp => ?_) hs
    obtain ⟨n, -, rfl⟩ := List.mem_map.1 hp
    rfl
  constructor <;> intro v s hs hst <;> rw [pending v s hs] at hst <;> cases hst

theorem of_status {node : String} {st : NodeStatus} (hx : Marked r x)
    (nodes : y.nodes = withStatus x.nodes node st)
    (errands : ∀ v, v ≠ node → .during v ∈ x.errands → .during v ∈ y.errands)
    (running : st = .running → .during node ∈ y.errands)
    (cancelled : x.cancelled = true → y.cancelled = true) (deeds : x.deeds ⊆ y.deeds)
    (failed : st = .failed → y.cancelled = true ∨ ∃ node e, .failed r node e ∈ y.deeds) :
    Marked r y where
  running v s hs hst := by
    rw [nodes] at hs
    obtain ⟨s₀, hs₀, -, hstatus⟩ := Joins.get_withStatus hs
    rw [hst] at hstatus
    split at hstatus
    · next hv => exact hv ▸ running hstatus.symm
    · next hv => exact errands v (Ne.symm hv) (hx.running v s₀ hs₀ hstatus.symm)
  failed v s hs hst := by
    rw [nodes] at hs
    obtain ⟨s₀, hs₀, -, hstatus⟩ := Joins.get_withStatus hs
    rw [hst] at hstatus
    split at hstatus
    · exact failed hstatus.symm
    · exact (hx.failed v s₀ hs₀ hstatus.symm).imp cancelled fun ⟨n, e, hm⟩ => ⟨n, e, deeds hm⟩

theorem of_nodes (hx : Marked r x) (nodes : y.nodes = x.nodes)
    (errands : ∀ v, .during v ∈ x.errands → .during v ∈ y.errands)
    (cancelled : x.cancelled = true → y.cancelled = true) (deeds : x.deeds ⊆ y.deeds) :
    Marked r y where
  running v s hs hst := errands v (hx.running v s (nodes ▸ hs) hst)
  failed v s hs hst := (hx.failed v s (nodes ▸ hs) hst).imp cancelled
    fun ⟨n, e, hm⟩ => ⟨n, e, deeds hm⟩

theorem of_arrival {node : String} {live : Bool} (hx : Marked r x)
    (nodes : y.nodes = withArrival x.nodes node live)
    (errands : ∀ v, .during v ∈ x.errands → .during v ∈ y.errands)
    (cancelled : y.cancelled = x.cancelled) (deeds : x.deeds ⊆ y.deeds) : Marked r y := by
  have kept : ∀ v s, y.nodes v = some s → s.status ≠ .blocked →
      ∃ s₀, x.nodes v = some s₀ ∧ s.status = s₀.status := by
    intro v s hs hb
    rw [nodes] at hs
    rcases Joins.get_withArrival hs with ⟨-, hs⟩ | ⟨-, s₀, hs₀, -, hst⟩
    · exact ⟨s, hs, rfl⟩
    · refine ⟨s₀, hs₀, ?_⟩
      split at hst
      · exact absurd hst hb
      · exact hst
  constructor <;> intro v s hs hst
  · obtain ⟨s₀, hs₀, heq⟩ := kept v s hs (by rw [hst]; nofun)
    exact errands v (hx.running v s₀ hs₀ (heq ▸ hst))
  · obtain ⟨s₀, hs₀, heq⟩ := kept v s hs (by rw [hst]; nofun)
    exact cancelled ▸ (hx.failed v s₀ hs₀ (heq ▸ hst)).imp_right fun ⟨n, e, hm⟩ => ⟨n, e, deeds hm⟩

theorem stride (h : Stride g r x y) (hx : Marked r x) : Marked r y := by
  have other : ∀ {e : Errand} {rest all : Multiset Errand}, x.errands = e ::ₘ rest → rest ⊆ all →
      ∀ v, e ≠ .during v → .during v ∈ x.errands → .during v ∈ all := by
    intro e rest all errands hsub v hne hm
    rw [errands, Multiset.mem_cons] at hm
    exact hsub (hm.resolve_left (Ne.symm hne))
  have added : ∀ {rest : Multiset Errand} (news : Multiset Errand), rest ⊆ news + rest :=
    fun news _ hm => Multiset.mem_add.2 (.inr hm)
  -- Only the errand that is done goes, so a node that is executed goes on being executed unless that
  -- was its errand.
  rcases h with h | ⟨errands, -⟩
  swap
  · exact hx.of_nodes rfl (fun v => other errands (Multiset.subset_cons _ _) v nofun) id
      (List.Subset.refl _)
  cases h
  case drop idle errands _ =>
    exact hx.of_nodes rfl (fun v => other errands (Multiset.Subset.refl _) v (idle v)) id
      (List.Subset.refl _)
  case lose asks goesOn asks_eq errands state =>
    exact hx.of_nodes rfl (fun v => other errands (Multiset.Subset.refl _) v nofun) id
      (List.subset_append_right _ _)
  case take errands _ _ =>
    exact hx.of_nodes rfl (fun v => other errands (Multiset.subset_cons _ _) v nofun) id
      (List.Subset.refl _)
  case halt errands =>
    exact hx.of_nodes rfl (fun v => other errands (Multiset.Subset.refl _) v nofun) id
      (List.Subset.refl _)
  case spread errands _ =>
    exact hx.of_nodes rfl (fun v => other errands (added _) v nofun) id (List.Subset.refl _)
  case stop | cancel => exact hx.of_nodes rfl (fun _ => id) (fun _ => by trivial) (List.Subset.refl _)
  case count errands _ _ _ _ =>
    refine hx.of_arrival rfl (fun v => other errands (added _) v nofun) rfl ?_
    exact List.subset_cons_of_subset _ (List.subset_append_right _ _)
  case skip errands =>
    exact hx.of_status rfl (fun v _ => other errands (added _) v nofun) nofun id
      (List.Subset.refl _) nofun
  case start errands _ _ =>
    exact hx.of_status rfl (fun v _ => other errands (Multiset.subset_cons _ _) v nofun)
      (fun _ => Multiset.mem_cons_self _ _) id (List.Subset.refl _) nofun
  case settle errands _ =>
    refine hx.of_status rfl (fun v hv => ?_) nofun id (List.Subset.refl _) nofun
    exact other errands (Multiset.subset_cons _ _) v (by simpa using Ne.symm hv)
  case abandon errands cancelled =>
    refine hx.of_status rfl (fun v hv => ?_) nofun id (List.Subset.refl _) fun _ => .inl cancelled
    exact other errands (Multiset.Subset.refl _) v (by simpa using Ne.symm hv)
  case refuse errands _ =>
    refine hx.of_status rfl (fun v _ => other errands (Multiset.Subset.refl _) v nofun) nofun id
      ?_ fun _ => .inr ⟨_, _, List.mem_cons_self⟩
    exact List.subset_cons_of_subset _ (List.subset_cons_self _ _)
  case spoil errands _ _ _ =>
    exact hx.of_status rfl (fun v _ => other errands (Multiset.Subset.refl _) v nofun) nofun id
      (List.subset_cons_self _ _) fun _ => .inr ⟨_, _, List.mem_cons_self⟩
  case blame errands =>
    refine hx.of_status rfl (fun v hv => ?_) nofun id (List.subset_cons_self _ _)
      fun _ => .inr ⟨_, _, List.mem_cons_self⟩
    exact other errands (Multiset.Subset.refl _) v (by simpa using Ne.symm hv)

end Marked

section

variable {l : Launch} {past newer : List (World × Act)} {v w : World}

/-- With nobody left to work for a run that was not cancelled and has not failed, no node of it is
running or has failed. -/
theorem Course.settled (h : Course l.world past v) (fits : l.Fits) (single : Single l.graph
    (v.view (l.allDeeds past))) (crew : (v.view (l.allDeeds past)).crew = 0)
    (calm : firstFailure (l.allDeeds past) = none) (goesOn : (v.contexts.get 0).cancelled = false)
    (node : String) :
    Entries.get? (v.runs.get 0).outcome.statuses node ≠ some .failed ∧
      Entries.get? (v.runs.get 0).outcome.statuses node ≠ some .running := by
  have hlt : 0 < v.nextRun := Nat.lt_of_lt_of_eq Nat.zero_lt_one single.nextRun.symm
  obtain ⟨-, marked⟩ := h.ledgers_of_strides (G := fun _ => True) (P := fun _ r x => Marked r x)
    (fun _ _ _ _ _ _ _ _ => trivial) (fun r limit cancelled _ => .opening _ r limit cancelled)
    (fun _ ht hx => hx.stride ht) fits trivial hlt
  have herrands : ((v.view (l.allDeeds past)).ledger 0).errands = 0 := by
    unfold Stage.ledger
    rw [crew]
    rfl
  have hcancelled : ((v.view (l.allDeeds past)).ledger 0).cancelled = false := by
    refine Eq.trans ?_ goesOn
    exact congrArg (v.view (l.allDeeds past)).cancelled single.context
  unfold Run.outcome
  rw [Entries.get?_mapValues]
  cases hs : (v.runs.get 0).nodes.get? node with
  | none => exact ⟨nofun, nofun⟩
  | some s =>
    refine ⟨fun hst => ?_, fun hst => ?_⟩
    · rcases marked.failed node s hs (Option.some.inj hst) with hc | ⟨id, e, hm⟩
      · rw [hcancelled] at hc
        cases hc
      · have hm : (0, e) ∈ failures (l.allDeeds past) :=
          mem_failures.2 ⟨id, (List.mem_filter.1 hm).1⟩
        rw [List.getLast?_eq_none_iff.1 calm] at hm
        cases hm
    · have hm := marked.running node s hs (Option.some.inj hst)
      rw [herrands] at hm
      exact absurd hm (Multiset.notMem_zero _)

/-- The first failure of a run is its result, and its text stands in the context from then on. A run
that returns without one was cancelled or succeeds with no node left running, and one that is not
cancelled returns only when all its tasks are over. -/
theorem Course.first_failure_wins (flat : l.graph.IsFlat) (fits : l.Fits)
    (clean : Entries.get? l.values Values.errorKey = none) (h : Course l.world past v)
    (onward : Course l.world (newer ++ past) w)
    (untouched : Untouched Values.errorKey (l.allDeeds (newer ++ past))) :
    (∀ f, firstFailure (l.allDeeds past) = some f →
      Entries.get? (w.contexts.get 0).values Values.errorKey = some (.string f.2.message) ∧
      ∀ ending, w.returned = some ending → ending = .over (.error f.2)) ∧
    (∀ ending, v.returned = some ending → w.returned = some ending) ∧
    (∀ ending, v.returned = some ending → (∀ p ∈ past, p.1.returned = none) →
      (firstFailure (l.allDeeds past) = none →
        if (v.contexts.get 0).cancelled then
          ending = .over (.error .cancelled) ∧
          Entries.get? (w.contexts.get 0).values Values.errorKey =
            some (.string PipelineError.cancelled.message)
        else
          ∃ outcome, ending = .over (.ok outcome) ∧ ∀ node,
            Entries.get? outcome.statuses node ≠ some .failed ∧
            Entries.get? outcome.statuses node ≠ some .running) ∧
      ((v.contexts.get 0).cancelled = false → ∀ t, v.tasks.get t = .over)) ∧
    (Compiled l.graph → ∀ σ : Schedule w, σ.IsFair → ∃ i, (σ.world i).returned.isSome) := by
  have hsub := l.subset_allDeeds newer past
  have told := onward.told clean untouched
  obtain ⟨-, decided⟩ := onward.decided flat fits clean untouched
  have toldThen := h.told clean (untouched.mono hsub)
  obtain ⟨single, decidedThen⟩ := h.decided flat fits clean (untouched.mono hsub)
  refine ⟨fun f hf => ?_, fun ending => h.returned_stays onward, fun ending hr before => ?_,
    fun compiled σ fair => ?_⟩
  · have hf : firstFailure (l.allDeeds (newer ++ past)) = some f := by
      rw [l.allDeeds_append]
      exact firstFailure_of_older hf _
    refine ⟨told.failed f hf, fun ending hr => ?_⟩
    obtain ⟨-, -, result, rfl, hc⟩ := decided.ended ending hr
    unfold Stage.Confirms at hc
    rw [show firstFailure (w.view (l.allDeeds (newer ++ past))).deeds = some f from hf] at hc
    exact congrArg Ending.over hc
  -- What is returned is decided when it is returned, so it can be read off the world of then.
  · obtain ⟨hposts, hidle, result, rfl, hc⟩ := decidedThen.ended ending hr
    refine ⟨fun calm => ?_, fun goesOn => ?_⟩
    · unfold Stage.Confirms at hc
      rw [show firstFailure (v.view (l.allDeeds past)).deeds = none from calm] at hc
      split
      · next hcancelled =>
        rcases hc with ⟨rfl, -⟩ | ⟨outcome, rfl⟩
        · obtain ⟨-, -, result, hresult, hconfirms⟩ :=
            decided.ended _ (h.returned_stays onward hr)
          cases hresult
          exact ⟨rfl, told.error_of_confirms hconfirms⟩
        · exact absurd (h.outcome_of_returned fits hr before).1 (by simp [hcancelled])
      · next hgo =>
        have hgo := Bool.eq_false_iff.2 hgo
        rcases hc with ⟨-, htext⟩ | ⟨outcome, rfl⟩
        · rcases toldThen.calm calm with hnone | ⟨hcancelled, -⟩
          · cases hnone.symm.trans htext
          · cases hgo.symm.trans hcancelled
        · obtain ⟨-, rfl⟩ := h.outcome_of_returned fits hr before
          have hcrew := hidle.resolve_left fun hcancelled =>
            Bool.false_ne_true (hgo.symm.trans hcancelled)
          exact ⟨_, rfl, h.settled fits single hcrew calm hgo⟩
    · refine h.over_of_idle _ (hidle.resolve_left fun hcancelled => ?_) hposts
      exact Bool.false_ne_true (goesOn.symm.trans hcancelled)
  · obtain ⟨i, hq⟩ := σ.quiets fair onward compiled.isSound
    obtain ⟨_, hi⟩ := σ.course onward i
    exact ⟨i, (Option.isSome_map ..).trans (hi.ended_of_quiet hq)⟩

end

/-! ## A race -/

namespace Race

def fail (text : String) : Activity :=
  .pause 10 (.finish (.failed (.executionFailed text))) (.finish (.failed .cancelled))

def node (id : String) (predecessors successors : List String) (activity : Activity) :
    GraphNode Component :=
  ⟨id, "basic", .ready (.basic "basic" activity) (.shared "basic"), predecessors,
    successors.map fun v => ⟨v, none⟩⟩

/-- A node and two nodes after it, both of which fail. -/
def graph : Graph Component :=
  ⟨"race", "a", [node "a" [] ["b", "c"] .done, node "b" ["a"] [] (fail "first"),
    node "c" ["a"] [] (fail "second")]⟩

def launch (parallel : Nat) : Launch :=
  ⟨Http.unreachable, [], false, none, graph, ⟨parallel, 8⟩, none⟩

theorem isFlat : graph.IsFlat := by
  intro n hn inner origin hslot
  simp only [graph, List.mem_cons, List.not_mem_nil, or_false] at hn
  rcases hn with rfl | rfl | rfl <;> cases hslot

end Race

/-- Of two nodes that fail, the first decides what comes of the run. -/
theorem first_failure_wins_race : ∃ newer past v w, Course (Race.launch 2).world past v ∧
    Course (Race.launch 2).world (newer ++ past) w ∧
    failures (deedsOf newer) = [(0, .componentExecution "c" (.executionFailed "second"))] ∧
    w.returned = some (.over (.error (.componentExecution "b" (.executionFailed "first")))) := by
  have h := (((((Course.start : Course (Race.launch 2).world [] _).step 1 (by decide)).step 2
    (by decide)).step 3 (by decide)).next (.pass 10) trivial).step 2 (by decide)
  have onward : Course (Race.launch 2).world ([_, _] ++ _) _ :=
    (h.step 3 (by decide)).step 0 (by decide)
  refine ⟨[_, _], _, _, _, h, onward, rfl, ?_⟩
  have fits : (Race.launch 2).Fits := show 2 ≤ Limits.mostParallel by decide
  obtain ⟨hfirst, -⟩ := Course.first_failure_wins Race.isFlat fits rfl h onward (by decide)
  obtain ⟨-, hresult⟩ := hfirst _ rfl
  exact congrArg some (hresult _ rfl)

/-- With more permits than there can be, a run that does not fail and is not cancelled comes to
nothing. -/
theorem not_returned_beyond_mostParallel : ¬∀ (l : Launch) (past : List (World × Act)) (w : World),
    l.graph.IsFlat → Entries.get? l.values Values.errorKey = none → Course l.world past w →
      Untouched Values.errorKey (l.allDeeds past) → w.Quiet →
      firstFailure (l.allDeeds past) = none → (w.contexts.get 0).cancelled = false →
      ∃ outcome, w.returned = some (.over (.ok outcome)) := by
  intro hall
  obtain ⟨_, h⟩ := hall (Race.launch (Limits.mostParallel + 1)) [] _ Race.isFlat rfl .start
    (by decide) ⟨by decide, by decide⟩ rfl rfl
  rw [show (Race.launch (Limits.mostParallel + 1)).world.returned = some .brokenOff from rfl] at h
  cases h

end Conduit
