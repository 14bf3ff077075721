import Conduit.Proofs.Graph.Keeping
import Conduit.Proofs.Run.Sharing

/-!
# Keys that are kept

What an execution waits with keeps a key if the execution does. So in the course of a graph that keeps
it, no execution erases the key.
-/

namespace Conduit

theorem Activity.Bursts.keeps {network : Http.Network} {activity : Activity} {s s' : Scene}
    {ts : List Touch} {p : Pending} (b : activity.Bursts network s ts s' p) {key : String}
    (h : activity.Keeps key) :
    (∀ t ∈ ts, t.erases key = false) ∧
      ∀ ms next stopped, p = .asleep ms next stopped → next.Keeps key ∧ stopped.Keeps key := by
  induction b with
  | finish => exact ⟨List.forall_mem_nil _, nofun⟩
  | look rest ih => exact ih (h _)
  | write rest ih => exact ⟨List.forall_mem_cons.2 ⟨rfl, (ih h).1⟩, (ih h).2⟩
  | erase rest ih => exact ⟨List.forall_mem_cons.2 ⟨beq_false_of_ne h.1, (ih h.2).1⟩, (ih h.2).2⟩
  | cancel rest ih | emit rest ih | note rest ih => exact ih h
  | cut rest ih | drop rest ih => exact ih h.2
  | pass rest ih => exact ih h.1
  | reply reply rest ih => exact ih (h.1 reply)
  | pause =>
    refine ⟨List.forall_mem_nil _, fun _ _ _ waits => ?_⟩
    cases waits
    exact h
  | send ms reply =>
    refine ⟨List.forall_mem_nil _, fun _ _ _ waits => ?_⟩
    cases waits
    exact ⟨h.1 reply, h.2⟩

def Duty.Keeps (key : String) : Duty → Prop
  | .performing _ activity => activity.Keeps key
  | .pausing _ _ next stopped => next.Keeps key ∧ stopped.Keeps key
  | _ => True

/-- What is executed in the runs keeps the key, and nothing has erased it. -/
structure Keeping (key : String) (S : Stage) : Prop where
  orderly : Orderly S
  graphs : ∀ s, s < S.nextRun → (S.runs s).graph.Keeps key
  crew : ∀ p ∈ S.crew, p.2.Keeps key
  deeds : ∀ d ∈ S.deeds, d.erases key = false

namespace Keeping

variable {key : String} {S S' : Stage} {r : Nat}

theorem crew_move (h : Keeping key S) (m : Move r S S') : ∀ p ∈ S'.crew, p.2.Keeps key := by
  intro p hp
  rcases m.comes hp with hp | comes
  · exact h.crew p hp
  cases comes with
  | started admitted node_eq slot =>
    exact (h.graphs r (h.orderly.crew _ admitted).1).node (Graph.mem_of_node? node_eq).1 slot
      (.basic _ _)
  | dozed _ performing burst =>
    exact ((Activity.bursts_of_burst burst).keeps (h.crew _ performing)).2 _ _ _ rfl
  | resumed pausing => exact (h.crew _ pausing).1
  | interrupted pausing => exact (h.crew _ pausing).2
  | @aside d _ aside =>
    cases d with
    | performing | pausing => cases aside
    | _ => trivial
  | begun | entered | performed | surfaced | settled => trivial

theorem deeds_move (h : Keeping key S) (m : Move r S S') : ∀ d ∈ S'.deeds, d.erases key = false := by
  obtain ⟨news, hn, occasions⟩ := m.occasions
  intro d hd
  rw [hn] at hd
  rcases List.mem_append.1 hd with hd | hd
  · cases occasions d hd with
    | performed busy _ _ =>
      exact List.any_eq_false.2 fun t ht =>
        Bool.not_eq_true _ ▸ ((Activity.bursts _ _ _).keeps (h.crew _ busy)).1 t ht
    | _ => rfl
  · exact h.deeds d hd

theorem move (h : Keeping key S) (m : Move r S S') : Keeping key S' where
  orderly := h.orderly.move m
  crew := h.crew_move m
  deeds := h.deeds_move m
  graphs s hs := by
    rcases m.known_or_begun hs with hold | ⟨hn, rfl⟩
    · rw [m.graph hold]
      exact h.graphs s hold
    · obtain ⟨id, n, g, origin, _, _, hr, hid, slot, -, hg, -⟩ :=
        (m.begins h.orderly).resolve_left hn
      rw [hg]
      exact fun _ holds => (h.graphs r hr).node (Graph.mem_of_node? hid).1 slot holds

end Keeping

theorem Course.keeps {l : Launch} {past : List (World × Act)} {w : World} {key : String}
    (h : Course l.world past w) (keeps : l.graph.Keeps key) :
    ∀ d ∈ l.allDeeds past, d.erases key = false := by
  refine (h.invariant (P := Keeping key) (fun _ => ⟨l.orderly_opening, fun s hs => ?_, ?_, ?_⟩)
    (fun _ => ⟨l.orderly_broken, fun _ _ _ holds => ?_, ?_, ?_⟩) (fun m hS => hS.move m)
    fun c hS => ⟨hS.orderly.cancel c, hS.graphs, hS.crew, hS.deeds⟩).deeds
  · obtain rfl : s = 0 := Nat.lt_one_iff.1 hs
    exact keeps
  · intro p hp
    cases Multiset.mem_singleton.1 hp
    trivial
  · exact fun _ hd => absurd hd List.not_mem_nil
  · cases holds with
    | node mem => exact absurd mem List.not_mem_nil
  · exact fun p hp => absurd hp (Multiset.notMem_zero p)
  · exact fun _ hd => absurd hd List.not_mem_nil

end Conduit
