import Conduit.Proofs.Run.Results
import Conduit.Proofs.Run.Strides
import Conduit.Proofs.Run.Termination

/-!
# Returning

What was launched returns once, in a step of the task that conducts its run. It returns an outcome only
if it is not cancelled, and the outcome says where the nodes stand then.
-/

namespace Conduit

/-- How what was launched has ended, once it has. -/
def World.returned (w : World) : Option Ending := (w.endings.get 0).map Prod.fst

theorem World.conclude_eq_ok {w : World} {r : Nat} {cancelled : Bool} {outcome : RunOutcome}
    (h : (w.conclude r cancelled).2 = .ok outcome) :
    (cancelled || (w.contextOf r).cancelled) = false ∧
      (w.conclude r cancelled).1.contexts = w.contexts ∧
      outcome = ((w.conclude r cancelled).1.runs.get r).outcome := by
  unfold conclude at h ⊢
  dsimp only at h ⊢
  cases hf : (w.runs.get r).failure with
  | some e =>
    rw [hf] at h
    cases h
  | none =>
    rw [hf] at h
    cases hc : cancelled || (w.contextOf r).cancelled with
    | true =>
      rw [hc] at h
      cases h
    | false =>
      rw [hc] at h
      refine ⟨rfl, rfl, (Except.ok.inj h).symm.trans ?_⟩
      simp only [Bool.false_eq_true, if_false, emit, get_runs_changeRun, if_true]
      rfl

theorem World.outcome_of_pollConducting {w : World} {t r : Nat} {deadline : Option Nat}
    {outcome : RunOutcome} (before : w.endings.get t = none)
    (h : ((w.pollConducting t r deadline).endings.get t).map Prod.fst =
      some (.over (.ok outcome))) :
    ((w.pollConducting t r deadline).contexts.get (w.runs.get r).context).cancelled = false ∧
      outcome = ((w.pollConducting t r deadline).runs.get r).outcome := by
  have ended : ∀ (v : World) (c : Nat) (result : RunResult),
      (((v.leave c t).finish t (.over result)).endings.get t).map Prod.fst =
        some (.over (.ok outcome)) → result = .ok outcome := by
    intro v c result h
    rw [finish, Table.get_set, if_pos rfl] at h
    injection h with h
    injection h
  unfold pollConducting at h ⊢
  dsimp only at h ⊢
  cases hover : w.isOver r with
  | some cancelled =>
    simp only [hover] at h ⊢
    obtain ⟨hc, hcontexts, houtcome⟩ := conclude_eq_ok (ended _ _ _ h)
    refine ⟨?_, houtcome⟩
    have hleave := congrArg (fun S => S.cancelled (w.runs.get r).context)
      (stage_leave (w.conclude r cancelled).1 0 .over [] (w.runs.get r).context t)
    refine Eq.trans hleave ?_
    exact (congrArg (fun x => (x.get (w.runs.get r).context).cancelled) hcontexts).trans
      (Bool.or_eq_false_iff.1 hc).2
  | none =>
    simp only [hover] at h
    split at h
    · obtain ⟨hc, -⟩ := conclude_eq_ok (ended _ _ _ h)
      cases hc
    · rw [show ((w.setTask t (.conducting r deadline)).listen (w.runs.get r).context t).endings =
        w.endings from rfl, before] at h
      cases h

section

variable {l : Launch} {past newer : List (World × Act)} {u v w : World} {a : Act}

theorem Course.conducting_of_returned (h : Course l.world past u) (allowed : u.Allows a)
    (before : u.returned = none) (after : (u.act a).returned.isSome) :
    a = .step 0 ∧ ∃ deadline, u.tasks.get 0 = .conducting 0 deadline := by
  have at_post : ∀ {v : World} {L : List Deed}, (0, 0) ∈ (v.view L).posts →
      0 < v.nextTask ∧ ∃ deadline, v.tasks.get 0 = .conducting 0 deadline := by
    intro v L hm
    obtain ⟨t, ht, hp⟩ := Multiset.mem_bind.1 (show (0, 0) ∈ (Multiset.range v.nextTask).bind
      fun u => (v.tasks.get u).phase.posts u from hm)
    cases htask : v.tasks.get t with
    | conducting r deadline =>
      rw [htask] at hp
      obtain ⟨rfl, rfl⟩ := Prod.mk.inj (Multiset.mem_singleton.1 hp)
      exact ⟨Multiset.mem_range.1 ht, deadline, htask⟩
    | _ =>
      rw [htask] at hp
      exact absurd hp (Multiset.notMem_zero _)
  have hnone : u.endings.get 0 = none := Option.map_eq_none_iff.1 before
  have hposts : (u.view (l.allDeeds past)).posts = {(0, 0)} := by
    refine (h.post.resolve_right fun hp => ?_).1
    rw [hnone] at hp
    cases hp.2
  obtain ⟨hlt, deadline, htask⟩ := at_post (L := l.allDeeds past)
    (hposts ▸ Multiset.mem_singleton_self _)
  have hgone : (0, 0) ∉ ((u.act a).view (l.allDeeds ((u, a) :: past))).posts := by
    rcases (h.next a allowed).post with ⟨-, hn⟩ | ⟨hz, -⟩
    · rw [World.returned, hn] at after
      cases after
    · exact hz ▸ Multiset.notMem_zero _
  refine ⟨?_, deadline, htask⟩
  -- Were its task untouched, the launch would be there still.
  have kept : (u.act a).tasks.get 0 ≠ u.tasks.get 0 := by
    intro ht
    refine hgone ((h.next a allowed).awake.mem_view_posts (t := 0) ?_ _)
    rw [ht, htask]
    exact Multiset.mem_singleton_self _
  cases a with
  | step t =>
    by_cases ht : t = 0
    · rw [ht]
    · exact absurd (h.awake.tasks_step (Ne.symm ht) hlt) kept
  | pass ms =>
    exact absurd (congrArg (Table.get · 0) (Prod.mk.inj (World.roster_wakeAll _ _)).1) kept
  | cancel c => exact absurd (congrArg (Table.get · 0) (Prod.mk.inj (u.roster_cancel c)).1) kept

theorem Course.outcome_of_returned (h : Course l.world past v) (fits : l.Fits) {outcome : RunOutcome}
    (returned : v.returned = some (.over (.ok outcome)))
    (before : ∀ p ∈ past, p.1.returned = none) :
    (v.contexts.get 0).cancelled = false ∧ outcome = (v.runs.get 0).outcome := by
  cases h with
  | start =>
    have hb := l.stage_begun .over
    have hc : (l.begun.runs.get 0).context = 0 := congrArg (fun S => (S.runs 0).context) hb
    have hn : l.begun.endings.get 0 = none :=
      Option.map_eq_none_iff.1 (congrArg (fun S => S.endings 0) hb)
    rw [l.world_eq fits] at returned ⊢
    obtain ⟨hcancelled, houtcome⟩ := World.outcome_of_pollConducting hn returned
    exact ⟨by rwa [hc] at hcancelled, houtcome⟩
  | @next past u a h allowed =>
    have hn := before _ List.mem_cons_self
    obtain ⟨rfl, deadline, htask⟩ := h.conducting_of_returned allowed hn (by rw [returned]; rfl)
    have hc : (u.runs.get 0).context = 0 := h.oneContext.context 0
    have hstep : u.act (.step 0) =
        { u with ready := u.ready.erase 0 }.pollConducting 0 0 deadline := by
      unfold World.act World.step World.poll
      dsimp only
      rw [htask]
    rw [hstep] at returned ⊢
    obtain ⟨hcancelled, houtcome⟩ := World.outcome_of_pollConducting
      (w := { u with ready := u.ready.erase 0 }) (Option.map_eq_none_iff.1 hn) returned
    rw [show ({ u with ready := u.ready.erase 0 } : World).runs.get 0 = u.runs.get 0 from rfl,
      hc] at hcancelled
    exact ⟨hcancelled, houtcome⟩

theorem Course.returned_act (h : Course l.world past u) {ending : Ending}
    (returned : u.returned = some ending) : (u.act a).returned = some ending := by
  have hposts : (u.view []).posts = 0 := by
    rcases h.post with ⟨-, hn⟩ | ⟨hz, -⟩
    · rw [World.returned, hn] at returned
      cases returned
    · exact hz
  -- No post is left whose end could be written.
  have hmoves : ∀ {S S' : Stage}, Moves S S' → S.posts = 0 → S.endings 0 = some ending →
      S'.endings 0 = some ending := by
    intro S S' hm
    have hmove : ∀ {r} {S S' : Stage}, Move r S S' → S.posts = 0 →
        S'.posts = 0 ∧ S'.endings = S.endings := by
      intro r S S' m hz
      rcases m.posts with ⟨hp, he⟩ | ⟨_, _, hp, -⟩
      · exact ⟨hp.trans hz, he⟩
      · exact absurd (hz.symm.trans hp) Multiset.zero_ne_cons
    induction hm with
    | single m => exact fun hz he => (congrFun (hmove m hz).2 0).trans he
    | head m _ ih => exact fun hz he => ih (hmove m hz).1 ((congrFun (hmove m hz).2 0).trans he)
  cases a with
  | step t =>
    rcases World.view_step h.awake t [] with ⟨hv, -⟩ | hm
    · exact (congrArg (fun S => S.endings 0) hv).trans returned
    · exact hmoves hm hposts returned
  | pass ms => exact (congrArg (fun S => S.endings 0) (u.view_pass ms [])).trans returned
  | cancel c => exact (congrArg (fun S => S.endings 0) (u.view_cancel c [])).trans returned

theorem Course.returned_stays (h : Course l.world past v)
    (onward : Course l.world (newer ++ past) w) {ending : Ending}
    (returned : v.returned = some ending) : w.returned = some ending := by
  induction newer generalizing w with
  | nil => exact onward.unique h ▸ returned
  | cons p newer ih =>
    cases onward with
    | next a before _ => exact before.returned_act (ih before)

theorem Entries.get?_mapValues {α β : Type} (f : α → β) (entries : Entries α) (key : String) :
    (entries.mapValues f).get? key = (entries.get? key).map f := by
  induction entries with
  | nil => rfl
  | cons e entries ih =>
    unfold mapValues at ih ⊢
    rw [List.map_cons, get?_cons, get?_cons, ih]
    split <;> rfl

/-- What was launched and could be set up returns with what its run was concluded with. -/
theorem Course.over_of_returned (h : Course l.world past v) (fits : l.Fits) {ending : Ending}
    (returned : v.returned = some ending) :
    ∃ result, ending = .over result ∧ .concluded 0 result ∈ l.allDeeds past := by
  obtain ⟨result, rfl⟩ : ∃ result, ending = .over result := by
    refine h.invariant (P := fun S => ∀ ending, S.endings 0 = some ending →
      ∃ result, ending = .over result) (fun _ => nofun) (fun hb => absurd fits hb) ?_
      (fun _ hS => hS) ending returned
    intro r S S' m hS ending he
    rcases m.posts with ⟨-, hends⟩ | ⟨t, result, -, hends, -⟩
    · exact hS ending (hends ▸ he)
    · rw [hends, Function.update_apply] at he
      split at he
      · exact ⟨result, (Option.some.inj he).symm⟩
      · exact hS ending he
  exact ⟨result, rfl, h.reported.endings result returned⟩

theorem Course.over_of_idle (h : Course l.world past v) (L : List Deed)
    (crew : (v.view L).crew = 0) (posts : (v.view L).posts = 0) (t : Nat) : v.tasks.get t = .over := by
  by_cases ht : t < v.nextTask
  · rw [World.view_eq_stage ht] at crew posts
    have hcrew : (v.tasks.get t).phase.crew = 0 := (add_eq_zero.1 crew).1
    have hposts : (v.tasks.get t).phase.posts t = 0 := (add_eq_zero.1 posts).1
    have ha := h.awake.alert t
    unfold World.Alert at ha
    cases htask : v.tasks.get t with
    | «over» => rfl
    | launching =>
      rw [htask] at ha
      exact ha.elim
    | conducting r deadline =>
      rw [htask] at hposts
      exact absurd hposts (Multiset.singleton_ne_zero _)
    | _ =>
      rw [htask] at hcrew
      exact absurd hcrew (Multiset.singleton_ne_zero _)
  · exact h.awake.beyond t (Nat.le_of_not_lt ht)

end

end Conduit
