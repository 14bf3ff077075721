import Conduit.Run.Gate
import Mathlib.Data.List.Induction
import Mathlib.Data.List.Perm.Basic

/-!
# Rounds of a gate

A gate lets its arrivals come in rounds of as many as there are nodes before its node, or of one if there
is none. Only the last arrival of a round resolves it, by whether any arrival of the round was live, so
the order of the arrivals in a round does not matter.
-/

namespace Conduit.Gate

/-! ## Arrivals one after the other -/

/-- The gate after some arrivals, live or dead, and what each of them led to. The oldest come first. -/
def receive (g : Gate) (lives : List Bool) : Gate × List Arrival :=
  lives.foldl (fun acc live => ((acc.1.arrive live).1, acc.2 ++ [(acc.1.arrive live).2])) (g, [])

theorem receive_snoc (g : Gate) (lives : List Bool) (live : Bool) :
    g.receive (lives ++ [live]) = (((g.receive lives).1.arrive live).1,
      (g.receive lives).2 ++ [((g.receive lives).1.arrive live).2]) := by
  simp [receive]

theorem length_receive (g : Gate) (lives : List Bool) :
    (g.receive lives).2.length = lives.length := by
  induction lives using List.reverseRecOn with
  | nil => rfl
  | append_singleton lives live ih => simp [receive_snoc, ih]

/-- What the last of some arrivals leads to, in rounds of `k`. -/
def verdict (k : Nat) (lives : List Bool) : Arrival :=
  if lives.length % k ≠ 0 then .waiting
  else if true ∈ lives.drop (lives.length - k) then .fire else .skip

/-- The arrivals of the round that is not over yet. -/
def current (k : Nat) (lives : List Bool) : List Bool :=
  lives.drop (lives.length - lives.length % k)

/-! ## Where a gate stands in its round -/

section

variable {k : Nat} (lives : List Bool) (live : Bool)

theorem ends_or_goes_on (hk : 0 < k) (m : Nat) :
    (m % k + 1 = k ∧ (m + 1) % k = 0) ∨ (m % k + 1 < k ∧ (m + 1) % k = m % k + 1) := by
  have hlt := Nat.mod_lt m hk
  rw [← Nat.mod_add_mod]
  by_cases h : m % k + 1 = k
  · left
    exact ⟨h, by rw [h, Nat.mod_self]⟩
  · right
    have h' : m % k + 1 < k := by omega
    exact ⟨h', Nat.mod_eq_of_lt h'⟩

theorem drop_snoc {i : Nat} (h : i ≤ lives.length) :
    (lives ++ [live]).drop i = lives.drop i ++ [live] :=
  List.drop_append_of_le_length h

theorem current_of_ended (h : lives.length % k = 0) : current k lives = [] := by
  simp [current, h]

theorem current_snoc (h : (lives.length + 1) % k = lives.length % k + 1) :
    current k (lives ++ [live]) = current k lives ++ [live] := by
  have hle := Nat.mod_le lives.length k
  unfold current
  rw [List.length_append, List.length_singleton, h, drop_snoc _ _ (by omega)]
  congr 2
  omega

theorem count_snoc (xs : List Bool) :
    (xs ++ [live]).count true = if live then xs.count true + 1 else xs.count true := by
  cases live <;> simp

theorem rearmed_arrive (g : Gate) : (g.arrive live).1.rearmed =
    if g.rearmed.remaining - 1 = 0 then ⟨g.rearmed.inbound, max g.rearmed.inbound 1, 0⟩
    else ⟨g.rearmed.inbound, g.rearmed.remaining - 1,
      if live then g.rearmed.live + 1 else g.rearmed.live⟩ := rfl

theorem arrive_snd (g : Gate) : (g.arrive live).2 =
    if 1 < g.rearmed.remaining then .waiting
    else if 0 < (if live then g.rearmed.live + 1 else g.rearmed.live) then .fire else .skip := rfl

/-- The invariant of a gate: ready for the next arrival, it waits for what is missing of the round and
knows how many of the round were live. -/
theorem rearmed_receive (n : Nat) : ((new n).receive lives).1.rearmed =
    ⟨n, max n 1 - lives.length % max n 1, (current (max n 1) lives).count true⟩ := by
  have hk : 0 < max n 1 := by omega
  induction lives using List.reverseRecOn with
  | nil =>
    by_cases h : n = 0
    · subst h
      rfl
    · have hmax : max n 1 = n := by omega
      simp [receive, new, rearmed, current, h, hmax]
  | append_singleton lives live ih =>
    rw [receive_snoc, rearmed_arrive, ih, ← count_snoc, List.length_append, List.length_singleton]
    dsimp only
    rcases ends_or_goes_on hk lives.length with ⟨hend, hmod⟩ | ⟨hlt, hmod⟩
    · -- The round is over, so the next arrival begins another one.
      have hlen : (lives ++ [live]).length % max n 1 = 0 := by simpa using hmod
      rw [if_pos (by omega), hmod, current_of_ended _ hlen]
      rfl
    · rw [if_neg (by omega), hmod, current_snoc _ _ hmod]
      congr 1

theorem arrive_receive (n : Nat) :
    (((new n).receive lives).1.arrive live).2 = verdict (max n 1) (lives ++ [live]) := by
  have hk : 0 < max n 1 := by omega
  have hle := Nat.mod_le lives.length (max n 1)
  rw [arrive_snd, rearmed_receive, ← count_snoc]
  unfold verdict
  simp only [List.count_pos_iff]
  rw [List.length_append, List.length_singleton]
  rcases ends_or_goes_on hk lives.length with ⟨hend, hmod⟩ | ⟨hlt, hmod⟩
  · have hfrom : lives.length + 1 - max n 1 = lives.length - lives.length % max n 1 := by omega
    rw [if_neg (by omega), if_neg (not_not.2 hmod), drop_snoc _ _ (by omega), hfrom]
    rfl
  · rw [if_pos (by omega), if_pos (by omega)]

theorem results_receive (n : Nat) {i : Nat} (hi : i < lives.length) :
    ((new n).receive lives).2[i]? = some (verdict (max n 1) (lives.take (i + 1))) := by
  induction lives using List.reverseRecOn with
  | nil => simp at hi
  | append_singleton lives live ih =>
    rw [receive_snoc]
    by_cases h : i < lives.length
    · rw [List.getElem?_append_left (by rw [length_receive]; exact h), ih h,
        List.take_append_of_le_length (by omega)]
    · have he : i = lives.length := by simp at hi; omega
      subst he
      rw [← length_receive (new n) lives, List.getElem?_concat_length, arrive_receive,
        length_receive, List.take_of_length_le (by simp)]

end

/-! ## Another order within a round -/

theorem verdict_reorder {k : Nat} {front block others rest : List Bool}
    (hfront : k ∣ front.length) (hblock : block.length = k) (perm : others.Perm block) {j : Nat}
    (hj : j ≤ (front ++ block ++ rest).length) :
    verdict k ((front ++ others ++ rest).take j) = verdict k ((front ++ block ++ rest).take j) := by
  have hothers : others.length = k := perm.length_eq.trans hblock
  simp only [List.length_append, hblock] at hj
  have hlen : ∀ b : List Bool, b.length = k → ((front ++ b ++ rest).take j).length = j := by
    intro b hb
    simp [hb]
    omega
  unfold verdict
  rw [hlen _ hblock, hlen _ hothers]
  split
  · rfl
  · next hmod =>
    have hdvd : k ∣ j := Nat.dvd_of_mod_eq_zero (not_not.1 hmod)
    by_cases hle : j ≤ front.length
    · simp only [List.append_assoc, List.take_append_of_le_length hle]
    · -- A multiple of `k` behind the front is behind the whole round.
      obtain ⟨c, hc⟩ := (Nat.dvd_sub_iff_left (by omega) hfront).2 hdvd
      have hpos : 0 < c := by
        rcases Nat.eq_zero_or_pos c with rfl | h
        · omega
        · exact h
      have hge : front.length + k ≤ j := by
        have := Nat.le_mul_of_pos_right k hpos
        omega
      have htake : ∀ b : List Bool, b.length = k → ((front ++ b ++ rest).take j).drop (j - k) =
          (b ++ rest.take (j - front.length - k)).drop (j - front.length - k) := by
        intro b hb
        rw [List.append_assoc, List.take_append, List.take_of_length_le (by omega), List.take_append,
          List.take_of_length_le (l := b) (by omega), List.drop_append, List.drop_eq_nil_of_le (by omega),
          List.nil_append, hb]
        congr 1
        omega
      rw [htake _ hblock, htake _ hothers]
      rcases Nat.eq_zero_or_pos (j - front.length - k) with hz | hp
      · rw [hz]
        simp [perm.mem_iff]
      · have hk' : k ≤ j - front.length - k := by
          have h2 : 2 ≤ c := by
            by_contra h
            have : c = 1 := by omega
            subst this
            omega
          have := Nat.mul_le_mul_left k h2
          omega
        have hb : block.drop (j - front.length - k) = [] := List.drop_eq_nil_of_le (by omega)
        have ho : others.drop (j - front.length - k) = [] := List.drop_eq_nil_of_le (by omega)
        rw [List.drop_append, List.drop_append, hb, ho, hblock, hothers]

/-! ## Rounds -/

/-- The arrival at the end of a round resolves it, and all others wait. The order within a round does not
matter. What the gate still waits for is never more than a round, and never nothing when it is
decreased. -/
theorem resolves_by_rounds (n : Nat) (lives : List Bool) :
    (∀ i < lives.length,
      ((new n).receive lives).2[i]? = some (verdict (max n 1) (lives.take (i + 1)))) ∧
    (∀ front block others rest, lives = front ++ block ++ rest → max n 1 ∣ front.length →
      block.length = max n 1 → others.Perm block →
        ((new n).receive (front ++ others ++ rest)).2 = ((new n).receive lives).2) ∧
    ((new n).receive lives).1.remaining ≤ max n 1 ∧
    ((new n).receive lives).1.rearmed.remaining ≤ max n 1 ∧
    ∀ live, (((new n).receive lives).1.arrive live).1.remaining + 1 =
      ((new n).receive lives).1.rearmed.remaining := by
  have hk : 0 < max n 1 := by omega
  have hrearmed := congrArg Gate.remaining (rearmed_receive lives n)
  refine ⟨fun i hi => results_receive lives n hi, ?_, ?_, ?_, fun live => ?_⟩
  · rintro front block others rest rfl hfront hblock perm
    apply List.ext_getElem?
    intro i
    have hlen : (front ++ others ++ rest).length = (front ++ block ++ rest).length := by
      simp [perm.length_eq]
    by_cases hi : i < (front ++ block ++ rest).length
    · rw [results_receive _ n hi, results_receive _ n (by omega), verdict_reorder hfront hblock perm hi]
    · rw [List.getElem?_eq_none (by rw [length_receive]; omega),
        List.getElem?_eq_none (by rw [length_receive]; omega)]
  · unfold rearmed at hrearmed
    split at hrearmed
    · omega
    · simp only at hrearmed
      omega
  · simp only at hrearmed
    omega
  · have := ((new n).receive lives).1.rearmed_remaining_pos
    simp only [arrive]
    omega

/-- Two rounds of a gate with two nodes before it, the first of them with its arrivals exchanged. -/
theorem resolves_by_rounds_two :
    ((new 2).receive [true, false, false, false]).2 = [.waiting, .fire, .waiting, .skip] ∧
    ((new 2).receive [false, true, false, false]).2 = ((new 2).receive [true, false, false, false]).2 :=
  ⟨by decide, (resolves_by_rounds 2 [true, false, false, false]).2.1 [] [true, false] [false, true]
    [false, false] rfl (by decide) rfl (by decide)⟩

end Conduit.Gate
