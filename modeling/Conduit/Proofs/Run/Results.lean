import Conduit.Proofs.Run.Failures
import Conduit.Proofs.Run.Tally

/-!
# Results

A run that is concluded with an error was cancelled or has failed with that error, and what a launched
run ends with is what it was concluded with.
-/

namespace Conduit

theorem Run.error_of_resultIf {run : Run} {cancelled : Bool} {e : PipelineError}
    (h : run.resultIf cancelled = .error e) :
    cancelled = true ∧ e = .cancelled ∨ run.failure = some e := by
  unfold resultIf at h
  split at h
  · next f hf => exact .inr (hf.trans (congrArg some (Except.error.inj h)))
  · split at h
    · next hc => exact .inl ⟨hc, (Except.error.inj h).symm⟩
    · cases h

/-- What the runs have come to is borne out by what happened in them. -/
structure Reported (S : Stage) : Prop where
  oneContext : OneContext S
  failure : ∀ s e, (S.runs s).failure = some e → (s, e) ∈ failures S.deeds
  concluded : ∀ s e, .concluded s (.error e) ∈ S.deeds →
    S.cancelled 0 = true ∧ e = .cancelled ∨ (s, e) ∈ failures S.deeds
  posts : ∀ p ∈ S.posts, p = (0, 0)
  endings : ∀ result, S.endings 0 = some (.over result) → .concluded 0 result ∈ S.deeds

namespace Reported

variable {S S' : Stage} {r : Nat}

theorem failure_move (h : Reported S) (m : Move r S S') (s : Nat) (e : PipelineError)
    (hf : (S'.runs s).failure = some e) : (s, e) ∈ failures S'.deeds := by
  have old : (S.runs s).failure = some e → (s, e) ∈ failures S'.deeds :=
    fun hf => List.filterMap_subset _ m.deeds_subset (h.failure s e hf)
  rcases m.effect h.oneContext with ⟨-, -, -, hk, -⟩ | ⟨q, node, e', _, hd, -, -, -, -, hk, ho, -⟩ |
    ⟨q, -, -, hn, ho, -⟩
  · exact old (hk s ▸ hf)
  · by_cases hq : s = q
    · subst hq
      rw [hk, Option.or_eq_some_iff] at hf
      rcases hf with hf | ⟨-, hf⟩
      · exact old hf
      · exact mem_failures.2 ⟨node, hd ▸ Option.some.inj hf ▸ List.mem_cons_self⟩
    · exact old (ho s hq ▸ hf)
  · by_cases hq : s = q
    · rw [hq, hn] at hf
      cases hf
    · exact old (ho s hq ▸ hf)

theorem concluded_move (h : Reported S) (m : Move r S S') (s : Nat) (e : PipelineError)
    (hc : .concluded s (.error e) ∈ S'.deeds) :
    S'.cancelled 0 = true ∧ e = .cancelled ∨ (s, e) ∈ failures S'.deeds := by
  have hsub : failures S.deeds ⊆ failures S'.deeds := List.filterMap_subset _ m.deeds_subset
  have old : .concluded s (.error e) ∈ S.deeds →
      S'.cancelled 0 = true ∧ e = .cancelled ∨ (s, e) ∈ failures S'.deeds :=
    fun hc => (h.concluded s e hc).imp (And.imp_left m.cancelled) (hsub ·)
  rcases m.effect h.oneContext with ⟨news, hd, hp, -⟩ | ⟨q, node, e', news, hd, hp, -⟩ | ⟨q, -, hd, -⟩ <;>
    rw [hd] at hc
  · exact old (concluded_append hp hc)
  · rcases List.mem_cons.1 hc with hc | hc
    · cases hc
    · exact old (concluded_append hp hc)
  · rcases List.mem_cons.1 hc with hc | hc
    · injection hc with hs hresult
      subst hs
      exact (Run.error_of_resultIf hresult.symm).imp_right fun hf => hsub (h.failure s e hf)
    · exact old hc

theorem move (h : Reported S) (m : Move r S S') : Reported S' where
  oneContext := h.oneContext.move m
  failure := h.failure_move m
  concluded := h.concluded_move m
  posts p hp := by
    rcases m.posts with ⟨hs, -⟩ | ⟨_, _, hs, -⟩
    · exact h.posts p (hs ▸ hp)
    · exact h.posts p (hs ▸ Multiset.mem_cons_of_mem hp)
  endings result he := by
    rcases m.posts with ⟨-, hends⟩ | ⟨t, result', hs, hends, hd⟩
    · exact m.deeds_subset (h.endings result (hends ▸ he))
    · obtain ⟨rfl, rfl⟩ := Prod.mk.inj (h.posts (t, r) (hs ▸ Multiset.mem_cons_self _ _))
      rw [hends, Function.update_self] at he
      cases he
      exact hd

end Reported

/-! ## Failures and cancellations -/

theorem Launch.reported_opening (l : Launch) : Reported l.opening where
  oneContext := l.oneContext_opening
  failure s e hf := by
    rw [l.failure_opening] at hf
    cases hf
  concluded _ _ hc := nomatch hc
  posts _ hp := Multiset.mem_singleton.1 hp
  endings _ he := nomatch he

theorem Launch.reported_broken (l : Launch) : Reported l.broken where
  oneContext := l.oneContext_broken
  failure _ _ hf := nomatch hf
  concluded _ _ hc := nomatch hc
  posts _ hp := nomatch hp
  endings _ he := nomatch he

theorem Reported.cancel {S : Stage} (h : Reported S) (c : Nat) : Reported (S.cancel c true) :=
  ⟨h.oneContext.cancel c, h.failure,
    fun s e hd => (h.concluded s e hd).imp_left (And.imp_left (Stage.cancelled_cancel _ c true)),
    h.posts, h.endings⟩

section

variable {l : Launch} {past : List (World × Act)} {w : World}

theorem Course.reported (h : Course l.world past w) : Reported (w.view (l.allDeeds past)) :=
  h.invariant (fun _ => l.reported_opening) (fun _ => l.reported_broken) (fun m hS => hS.move m)
    fun c hS => hS.cancel c

/-- A run is known to have come to an error: it was concluded with it, or what was launched ended with
it. -/
def World.Reports (w : World) (deeds : List Deed) (r : Nat) (e : PipelineError) : Prop :=
  .concluded r (.error e) ∈ deeds ∨
    r = 0 ∧ (w.endings.get 0).map Prod.fst = some (.over (.error e))

theorem Course.failed_of_reports (h : Course l.world past w) {r : Nat} {e : PipelineError}
    (hr : w.Reports (l.allDeeds past) r e) (he : e ≠ .cancelled) :
    ∃ node, .failed r node e ∈ l.allDeeds past := by
  have hd : .concluded r (.error e) ∈ l.allDeeds past := by
    rcases hr with hr | ⟨rfl, hr⟩
    · exact hr
    · exact h.reported.endings _ hr
  exact mem_failures.1 ((h.reported.concluded r e hd).resolve_left fun hc => he hc.2)

end

end Conduit
