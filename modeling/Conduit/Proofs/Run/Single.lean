import Conduit.Proofs.Run.Tally

/-!
# Single runs

A graph whose components are no pipelines has one run only. Its tasks work for it alone, in its
context, and all moves are its own.
-/

namespace Conduit

def Graph.IsFlat (g : Graph Component) : Prop :=
  ∀ n ∈ g.nodes, ∀ inner origin, n.slot ≠ .ready (.pipeline inner) origin

structure Single (g : Graph Component) (S : Stage) : Prop where
  orderly : Orderly S
  nextRun : S.nextRun = 1
  graph : (S.runs 0).graph = g
  context : (S.runs 0).context = 0
  tally : Tally S 0

namespace Single

variable {g : Graph Component} {S S' : Stage} {r : Nat}

theorem run_eq (h : Single g S) {d : Duty} {rest : Multiset (Nat × Duty)}
    (crew : S.crew = (r, d) ::ₘ rest) : r = 0 := by
  have hlt := (h.orderly.crew _ (crew ▸ Multiset.mem_cons_self _ _)).1
  rw [h.nextRun] at hlt
  omega

theorem post_eq (h : Single g S) {t : Nat} {posts : Multiset (Nat × Nat)}
    (post : S.posts = (t, r) ::ₘ posts) : r = 0 := by
  have hlt := h.orderly.posts _ (post ▸ Multiset.mem_cons_self _ _)
  rw [h.nextRun] at hlt
  omega

theorem not_nesting (h : Single g S) {node : String} {inner : Nat} : (r, .nesting node inner) ∉ S.crew := by
  intro hm
  obtain ⟨-, hlt, hi⟩ := h.orderly.crew _ hm
  rw [h.nextRun] at hi
  omega

theorem not_pipeline (h : Single g S) (flat : g.IsFlat) {node : String} {n : GraphNode Component}
    {inner : Graph Component} {origin : Origin} (hn : (S.runs 0).graph.node? node = some n)
    (slot : n.slot = .ready (.pipeline inner) origin) : False := by
  rw [h.graph] at hn
  exact flat n (List.mem_of_find?_eq_some hn) inner origin slot

theorem move_eq (h : Single g S) (m : Move r S S') : r = 0 := by
  cases m
  case conclude post _ | expire post _ => exact h.post_eq post
  all_goals exact h.run_eq (by assumption)

theorem move (h : Single g S) (flat : g.IsFlat) (m : Move r S S') : Single g S' := by
  have hlt : 0 < S.nextRun := by
    rw [h.nextRun]
    exact Nat.zero_lt_one
  have hframe := m.frame hlt
  have hn : S'.nextRun = S.nextRun := by
    rcases m.begins h.orderly with hn | ⟨id, n, inner, origin, _, _, hr, hid, slot, -⟩
    · exact hn
    · obtain rfl := h.move_eq m
      exact (h.not_pipeline flat hid slot).elim
  exact
    { orderly := h.orderly.move m
      nextRun := hn.trans h.nextRun
      graph := (congrArg Prod.fst hframe).trans h.graph
      context := (congrArg (fun p => p.2.1) hframe).trans h.context
      tally := h.tally.move_of_lt m hlt }

theorem cancel (h : Single g S) (c : Nat) : Single g (S.cancel c true) :=
  ⟨h.orderly.cancel c, h.nextRun, h.graph, h.context, h.tally.of_counts rfl rfl rfl rfl⟩

end Single

theorem Launch.single_opening (l : Launch) : Single l.graph l.opening :=
  ⟨l.orderly_opening, rfl, rfl, rfl, l.tally_opening⟩

/-- What holds at the opening of a flat graph's run, and is kept by the moves of the run and by every
cancellation, holds after every course. -/
theorem Course.single {l : Launch} {P : Stage → Prop} (flat : l.graph.IsFlat) (fits : l.Fits)
    (opening : P l.opening)
    (move : ∀ {S S' : Stage}, Single l.graph S → Move 0 S S' → P S → P S')
    (cancel : ∀ {S : Stage} (c : Nat), Single l.graph S → P S → P (S.cancel c true))
    {past : List (World × Act)} {w : World} (h : Course l.world past w) :
    Single l.graph (w.view (l.allDeeds past)) ∧ P (w.view (l.allDeeds past)) := by
  refine h.invariant (P := fun S => Single l.graph S ∧ P S)
    (fun _ => ⟨l.single_opening, opening⟩) (fun hb => absurd fits hb) ?_ ?_
  · intro r S S' m hS
    obtain rfl := hS.1.move_eq m
    exact ⟨hS.1.move flat m, move hS.1 m hS.2⟩
  · exact fun c hS => ⟨hS.1.cancel c, cancel c hS.1 hS.2⟩

end Conduit
