import Conduit.Proofs.Condition.Reach
import Conduit.Proofs.Run.Keys

/-!
# Footprints

An execution that keeps to a footprint looks at some keys only and touches some keys only, so it touches
the same keys in the same way wherever the keys it looks at have the same values, even when others work
on other keys between its pauses. A log tells which node touched which key, and the value of a key is
what the last of its touches left.
-/

namespace Conduit

/-! ## Touches -/

namespace Touch

def key : Touch → String
  | .write key _ => key
  | .erase key => key

/-- What the touched key has for a value afterwards. -/
def value? : Touch → Option Value
  | .write _ value => some value
  | .erase _ => none

def apply (values : Values) : Touch → Values
  | .write key value => values.set key value
  | .erase key => Entries.erase values key

theorem get?_apply (t : Touch) (values : Values) (k : String) :
    Entries.get? (t.apply values) k = if t.key = k then t.value? else Entries.get? values k := by
  cases t with
  | write key value => exact Entries.get?_insert _ _ _ _
  | erase key => exact Entries.get?_erase _ _ _

theorem get?_apply_of_ne {t : Touch} {k : String} (h : t.key ≠ k) (values : Values) :
    Entries.get? (t.apply values) k = Entries.get? values k :=
  (t.get?_apply values k).trans (if_neg h)

theorem get?_foldl_apply {touches : List Touch} {k : String} (h : ∀ t ∈ touches, t.key ≠ k)
    (values : Values) : Entries.get? (touches.foldl Touch.apply values) k = Entries.get? values k := by
  induction touches generalizing values with
  | nil => rfl
  | cons t touches ih =>
    rw [List.foldl_cons, ih fun u hu => h u (List.mem_cons_of_mem _ hu),
      get?_apply_of_ne (h t List.mem_cons_self)]

end Touch

/-! ## Executions on their own -/

namespace Activity

/-- The keys that an execution touches to its end when nothing comes in between, in their order. -/
def solo (network : Http.Network) : Activity → Values → List Touch
  | .finish _, _ => []
  | .look next, values => (next values).solo network values
  | .write key value next, values =>
    .write key value :: next.solo network (values.set key value)
  | .erase key next, values => .erase key :: next.solo network (Entries.erase values key)
  | .cancel next, values => next.solo network values
  | .emit _ next, values => next.solo network values
  | .note _ next, values => next.solo network values
  | .pause _ next _, values => next.solo network values
  | .send request next _, values => (next (Http.exchange network request).2).solo network values

/-- An execution that is not cancelled does nothing but look at some keys and touch some keys, sends
and waits, and succeeds. -/
inductive Confined (network : Http.Network) (reads writes : String → Prop) : Activity → Prop where
  | finish : Confined network reads writes (.finish .succeeded)
  | look {next : Values → Activity}
      (same : ∀ v v' : Values, (∀ k, reads k → Entries.get? v k = Entries.get? v' k) → next v = next v')
      (each : ∀ v, Confined network reads writes (next v)) : Confined network reads writes (.look next)
  | write {key : String} {next : Activity} (value : Value) (mem : writes key)
      (rest : Confined network reads writes next) : Confined network reads writes (.write key value next)
  | erase {key : String} {next : Activity} (mem : writes key)
      (rest : Confined network reads writes next) : Confined network reads writes (.erase key next)
  | emit {next : Activity} (value : Value) (rest : Confined network reads writes next) :
      Confined network reads writes (.emit value next)
  | note {next : Activity} (n : Note) (rest : Confined network reads writes next) :
      Confined network reads writes (.note n next)
  | pause {next : Activity} (ms : Nat) (stopped : Activity) (rest : Confined network reads writes next) :
      Confined network reads writes (.pause ms next stopped)
  | send {request : Http.Request} {next : Http.Reply → Activity} (stopped : Activity)
      (rest : Confined network reads writes (next (Http.exchange network request).2)) :
      Confined network reads writes (.send request next stopped)

theorem Bursts.values_eq {network : Http.Network} {activity : Activity} {s s' : Scene} {ts : List Touch}
    {p : Pending} (b : activity.Bursts network s ts s' p) :
    s'.values = ts.foldl Touch.apply s.values := by
  induction b with
  | finish | pause | send => rfl
  | look rest ih | write rest ih | erase rest ih | cancel rest ih | emit rest ih | note rest ih
  | cut rest ih | pass rest ih | drop rest ih | reply _ rest ih => exact ih

end Activity

/-- What is still to be executed. -/
def Pending.rest : Pending → Activity
  | .finished result => .finish result
  | .asleep _ next _ => next

namespace Activity.Confined

variable {network : Http.Network} {reads writes : String → Prop} {activity : Activity}

/-- An execution that goes on does what it would do on its own, and keeps to its footprint. -/
theorem burst (h : activity.Confined network reads writes) (s : Scene) (goesOn : s.cancelled = false) :
    (activity.burst network s).1.cancelled = false ∧
      (activity.burst network s).2.rest.Confined network reads writes ∧
      (∀ t ∈ activity.touches network s, writes t.key) ∧
      activity.solo network s.values = activity.touches network s ++
        (activity.burst network s).2.rest.solo network (activity.burst network s).1.values := by
  induction h generalizing s with
  | finish => exact ⟨goesOn, .finish, List.forall_mem_nil _, rfl⟩
  | look same each ih => exact ih s.values s goesOn
  | @write key _ value mem rest ih =>
    obtain ⟨hc, hrest, hkeys, hsolo⟩ := ih { s with values := s.values.set key value } goesOn
    exact ⟨hc, hrest, List.forall_mem_cons.2 ⟨mem, hkeys⟩, congrArg (List.cons _) hsolo⟩
  | @erase key _ mem rest ih =>
    obtain ⟨hc, hrest, hkeys, hsolo⟩ := ih { s with values := Entries.erase s.values key } goesOn
    exact ⟨hc, hrest, List.forall_mem_cons.2 ⟨mem, hkeys⟩, congrArg (List.cons _) hsolo⟩
  | emit value rest ih | note n rest ih => exact ih _ goesOn
  | pause ms stopped rest ih =>
    unfold touches Activity.burst
    rw [goesOn]
    by_cases hms : ms = 0
    · simp only [Bool.false_eq_true, if_false, if_pos hms]
      exact ih s goesOn
    · simp only [Bool.false_eq_true, if_false, if_neg hms]
      exact ⟨goesOn, rest, List.forall_mem_nil _, rfl⟩
  | @send request next stopped rest ih =>
    have hsolo : (Activity.send request next stopped).solo network s.values =
        (next (Http.exchange network request).2).solo network s.values := rfl
    rw [hsolo]
    unfold touches Activity.burst
    rw [goesOn]
    cases hx : Http.exchange network request with
    | mk ms reply =>
      rw [hx] at rest ih
      simp only [Bool.false_eq_true, if_false]
      cases ms with
      | zero => exact ih s goesOn
      | succ ms => exact ⟨goesOn, rest, List.forall_mem_nil _, rfl⟩

theorem solo_congr (h : activity.Confined network reads writes) {v v' : Values}
    (same : ∀ k, reads k → Entries.get? v k = Entries.get? v' k) :
    activity.solo network v = activity.solo network v' := by
  induction h generalizing v v' with
  | finish => rfl
  | look alike each ih =>
    unfold solo
    rw [alike v v' same]
    exact ih v' same
  | write value mem rest ih =>
    refine congrArg (List.cons _) (ih fun k hk => ?_)
    rw [Values.set, Values.set, Entries.get?_insert, Entries.get?_insert, same k hk]
  | erase mem rest ih =>
    refine congrArg (List.cons _) (ih fun k hk => ?_)
    rw [Entries.get?_erase, Entries.get?_erase, same k hk]
  | emit value rest ih | note n rest ih | pause ms stopped rest ih | send stopped rest ih =>
    exact ih same

theorem succeeded {result : Result} (h : (Activity.finish result).Confined network reads writes) :
    result = .succeeded := by
  cases h
  rfl

end Activity.Confined

/-! ## The keys of conditions -/

namespace Condition

/-- The context key that a path begins with. -/
def keysOf (path : List String) : List String := path.take 1

theorem lookup_congr {v v' : Values} {path : List String}
    (same : ∀ k ∈ keysOf path, Entries.get? v k = Entries.get? v' k) : lookup v path = lookup v' path := by
  cases path with
  | nil => rfl
  | cons key path => exact congrArg (Option.bind · _) (same key List.mem_cons_self)

def Operand.keys : Operand → List String
  | .literal _ => []
  | .path segments => keysOf segments

theorem Operand.keys_of_mem_paths {o : Operand} {path : List String} (h : path ∈ o.paths) :
    o.keys = keysOf path := by
  cases o with
  | literal => cases h
  | path segments =>
    obtain rfl := List.mem_singleton.1 h
    rfl

/-- The context keys that occur in an expression. -/
def Expr.keys : Expr → List String
  | .or left right => left.keys ++ right.keys
  | .and left right => left.keys ++ right.keys
  | .not inner => inner.keys
  | .present path => keysOf path
  | .compare left _ right => left.keys ++ right.keys
  | .truthy operand => operand.keys

theorem Expr.keysOf_subset {e : Expr} {path : List String} (h : path ∈ e.paths) :
    keysOf path ⊆ e.keys := by
  cases e with
  | present =>
    obtain rfl := List.mem_singleton.1 h
    exact List.Subset.refl _
  | compare left c right =>
    rcases List.mem_append.1 h with h | h
    · rw [← Operand.keys_of_mem_paths h]
      exact List.subset_append_left _ _
    · rw [← Operand.keys_of_mem_paths h]
      exact List.subset_append_right _ _
  | truthy o =>
    rw [← Operand.keys_of_mem_paths (o := o) h]
    exact List.Subset.refl _
  | _ => cases h

theorem Frame.keys_subset (f : Frame) (part : Expr) : part.keys ⊆ (f.put part).keys := by
  cases f with
  | orLeft | andLeft => exact List.subset_append_left _ _
  | orRight | andRight => exact List.subset_append_right _ _
  | not => exact List.Subset.refl _

theorem Expr.Reaches.keys_subset {v : Values} {e part : Expr} (h : e.Reaches v part) :
    part.keys ⊆ e.keys := by
  obtain ⟨frames, rfl, -⟩ := h
  induction frames with
  | nil => exact List.Subset.refl _
  | cons f frames ih => exact List.Subset.trans ih (f.keys_subset _)

theorem Expr.eval_congr {v v' : Values} {e : Expr}
    (same : ∀ k ∈ e.keys, Entries.get? v k = Entries.get? v' k) : e.eval v = e.eval v' := by
  refine (eval_eq_of_reached fun part reaches path hpath => ?_).symm
  have within : keysOf path ⊆ e.keys :=
    List.Subset.trans (Expr.keysOf_subset hpath) reaches.keys_subset
  exact (lookup_congr fun k hk => same k (within hk)).symm

end Condition

/-- The context keys that the condition of an edge reads. -/
def Edge.keys (edge : Edge) : List String :=
  match edge.condition with
  | none => []
  | some c => c.expr.keys

theorem Edge.isLive_congr {edge : Edge} {v v' : Values}
    (same : ∀ k ∈ edge.keys, Entries.get? v k = Entries.get? v' k) (live : Bool) :
    edge.isLive v live = edge.isLive v' live := by
  unfold Edge.keys at same
  unfold Edge.isLive
  cases hc : edge.condition with
  | none => cases live <;> rfl
  | some c =>
    rw [hc] at same
    cases live with
    | false => rfl
    | true => exact Condition.Expr.eval_congr same

/-! ## Logs -/

/-- What nodes did to keys, the newest first. -/
abbrev Log := List (String × Touch)

namespace Log

def replay (values : Values) (log : Log) : Values := log.foldr (fun e v => e.2.apply v) values

/-- The touches of one node in the order they came. -/
def touchesOf (node : String) (log : Log) : List Touch :=
  ((log.filter fun e => e.1 == node).map Prod.snd).reverse

def entries (node : String) (touches : List Touch) : Log := touches.reverse.map fun t => (node, t)

open Classical in
noncomputable def only (nodes : String → Prop) (log : Log) : Log := log.filter fun e => nodes e.1

variable {log : Log} {node : String} {nodes : String → Prop} {k : String}

theorem mem_entries {touches : List Touch} {e : String × Touch} :
    e ∈ entries node touches ↔ e.1 = node ∧ e.2 ∈ touches := by
  unfold entries
  rw [List.mem_map]
  constructor
  · rintro ⟨t, ht, rfl⟩
    exact ⟨rfl, List.mem_reverse.1 ht⟩
  · rintro ⟨rfl, ht⟩
    exact ⟨e.2, List.mem_reverse.2 ht, rfl⟩

theorem replay_entries (values : Values) (node : String) (touches : List Touch) (log : Log) :
    replay values (entries node touches ++ log) = touches.foldl Touch.apply (replay values log) := by
  unfold replay entries
  rw [List.foldr_append, List.foldr_map, List.foldr_reverse]

theorem mem_touchesOf {t : Touch} : t ∈ touchesOf node log ↔ (node, t) ∈ log := by
  unfold touchesOf
  rw [List.mem_reverse, List.mem_map]
  constructor
  · rintro ⟨⟨v, t⟩, he, rfl⟩
    obtain ⟨hm, hv⟩ := List.mem_filter.1 he
    exact eq_of_beq hv ▸ hm
  · exact fun h => ⟨_, List.mem_filter.2 ⟨h, beq_self_eq_true node⟩, rfl⟩

theorem touchesOf_entries_self (node : String) (touches : List Touch) (log : Log) :
    touchesOf node (entries node touches ++ log) = touchesOf node log ++ touches := by
  unfold touchesOf
  rw [List.filter_append, List.filter_eq_self.2 fun e he => beq_iff_eq.2 (mem_entries.1 he).1,
    List.map_append, List.reverse_append]
  congr 1
  unfold entries
  rw [List.map_map, ← List.map_reverse, List.reverse_reverse]
  exact List.map_id _

theorem touchesOf_entries_of_ne {other : String} (h : other ≠ node) (touches : List Touch) (log : Log) :
    touchesOf node (entries other touches ++ log) = touchesOf node log := by
  unfold touchesOf
  rw [List.filter_append, List.filter_eq_nil_iff.2 fun e he hb => h
    ((mem_entries.1 he).1.symm.trans (eq_of_beq hb)), List.nil_append]

section

open Classical

theorem only_entries_of_not (nodes : String → Prop) (h : ¬nodes node) (touches : List Touch) (log : Log) :
    only nodes (entries node touches ++ log) = only nodes log := by
  have hnone : (entries node touches).filter (fun e => decide (nodes e.1)) = [] :=
    List.filter_eq_nil_iff.2 fun e he hb => h ((mem_entries.1 he).1 ▸ of_decide_eq_true hb)
  unfold only
  rw [List.filter_append, hnone, List.nil_append]

theorem touchesOf_only (h : nodes node) (log : Log) :
    touchesOf node (only nodes log) = touchesOf node log := by
  unfold touchesOf only
  rw [List.filter_filter]
  congr 3
  funext e
  by_cases he : e.1 = node
  · rw [decide_eq_true (he ▸ h), Bool.and_true]
  · rw [beq_false_of_ne he, Bool.false_and]

theorem touchesOf_only_of_not (h : ¬nodes node) (log : Log) : touchesOf node (only nodes log) = [] := by
  refine List.eq_nil_iff_forall_not_mem.2 fun t ht => h ?_
  exact of_decide_eq_true (List.mem_filter.1 (mem_touchesOf.1 ht)).2

theorem get?_replay_only (h : ∀ e ∈ log, e.2.key = k → nodes e.1) (values : Values) :
    Entries.get? (replay values (only nodes log)) k = Entries.get? (replay values log) k := by
  induction log with
  | nil => rfl
  | cons e log ih =>
    have ih := ih fun e he => h e (List.mem_cons_of_mem _ he)
    unfold only at ih ⊢
    by_cases he : nodes e.1
    · rw [List.filter_cons_of_pos (p := fun e : String × Touch => decide (nodes e.1))
        (decide_eq_true he)]
      exact (e.2.get?_apply _ k).trans ((if_congr Iff.rfl rfl ih).trans (e.2.get?_apply _ k).symm)
    · rw [List.filter_cons_of_neg (by simpa using he), ih]
      exact (Touch.get?_apply_of_ne (fun hk => he (h e List.mem_cons_self hk)) _).symm

end

theorem get?_replay_of_ne (h : ∀ e ∈ log, e.2.key ≠ k) (values : Values) :
    Entries.get? (replay values log) k = Entries.get? values k := by
  induction log with
  | nil => rfl
  | cons e log ih =>
    exact (Touch.get?_apply_of_ne (h e List.mem_cons_self) _).trans
      (ih fun e he => h e (List.mem_cons_of_mem _ he))

/-! ## Logs of the same touches -/

/-- No entry is of a node before that of an older entry. -/
def IsOrdered (before : String → String → Prop) (log : Log) : Prop :=
  log.Pairwise fun newer older => ¬before newer.1 older.1

theorem IsOrdered.only {before : String → String → Prop} (h : log.IsOrdered before)
    (nodes : String → Prop) : (log.only nodes).IsOrdered before :=
  h.filter _

theorem IsOrdered.entries_append {before : String → String → Prop} (h : log.IsOrdered before)
    (self : ¬before node node) (latest : ∀ e ∈ log, ¬before node e.1) (touches : List Touch) :
    (entries node touches ++ log).IsOrdered before := by
  refine List.pairwise_append.2 ⟨?_, h, fun e he e' he' => ?_⟩
  · refine List.pairwise_of_forall_mem_list fun e he e' he' => ?_
    rw [(mem_entries.1 he).1, (mem_entries.1 he').1]
    exact self
  · rw [(mem_entries.1 he).1]
    exact latest e' he'

def latest (k : String) (log : Log) : Option (String × Touch) := log.find? fun e => e.2.key == k

theorem latest_cons (k : String) (e : String × Touch) (log : Log) :
    latest k (e :: log) = if e.2.key = k then some e else latest k log := by
  unfold latest
  rw [List.find?_cons]
  by_cases h : e.2.key = k
  · rw [if_pos h, beq_iff_eq.2 h]
  · rw [if_neg h, beq_false_of_ne h]

theorem mem_of_latest {e : String × Touch} (h : latest k log = some e) : e ∈ log ∧ e.2.key = k :=
  ⟨List.mem_of_find?_eq_some h,
    eq_of_beq (List.find?_some (p := fun e : String × Touch => e.2.key == k) h)⟩

theorem exists_latest {e : String × Touch} (hm : e ∈ log) (hk : e.2.key = k) :
    ∃ e', latest k log = some e' :=
  Option.isSome_iff_exists.1 (List.find?_isSome.2 ⟨e, hm, beq_iff_eq.2 hk⟩)

theorem get?_replay (values : Values) (log : Log) (k : String) :
    Entries.get? (replay values log) k =
      (latest k log).elim (Entries.get? values k) fun e => e.2.value? := by
  induction log with
  | nil => rfl
  | cons e log ih =>
    refine (e.2.get?_apply _ k).trans ?_
    rw [latest_cons]
    by_cases h : e.2.key = k
    · rw [if_pos h, if_pos h]
      rfl
    · rw [if_neg h, if_neg h]
      exact ih

theorem IsOrdered.of_latest {before : String → String → Prop} (h : log.IsOrdered before)
    {e e' : String × Touch} (he : latest k log = some e) (hm : e' ∈ log) (hk : e'.2.key = k) :
    e' = e ∨ ¬before e.1 e'.1 := by
  induction log with
  | nil => cases hm
  | cons a log ih =>
    obtain ⟨ha, hlog⟩ := List.pairwise_cons.1 h
    rw [latest_cons] at he
    by_cases hka : a.2.key = k
    · rw [if_pos hka] at he
      obtain rfl := Option.some.inj he
      exact (List.mem_cons.1 hm).imp_right (ha e')
    · rw [if_neg hka] at he
      refine ih hlog he ((List.mem_cons.1 hm).resolve_left ?_)
      rintro rfl
      exact hka hk

theorem find?_touchesOf {e : String × Touch} (h : latest k log = some e) :
    (touchesOf e.1 log).reverse.find? (fun t => t.key == k) = some e.2 := by
  unfold touchesOf
  rw [List.reverse_reverse]
  induction log with
  | nil => cases h
  | cons a log ih =>
    rw [latest_cons] at h
    by_cases hka : a.2.key = k
    · rw [if_pos hka] at h
      obtain rfl := Option.some.inj h
      rw [List.filter_cons, if_pos (beq_self_eq_true _), List.map_cons, List.find?_cons,
        beq_iff_eq.2 hka]
    · rw [if_neg hka] at h
      rw [List.filter_cons]
      split
      · rw [List.map_cons, List.find?_cons, beq_false_of_ne hka]
        exact ih h
      · exact ih h

/-- Two logs that tell the same of every node leave a key with the same value, when of any two nodes that
touch it one comes before the other. -/
theorem get?_replay_congr {before : String → String → Prop} {x y : Log} (hx : x.IsOrdered before)
    (hy : y.IsOrdered before) (same : ∀ v, touchesOf v x = touchesOf v y)
    (total : ∀ e ∈ x, ∀ e' ∈ x, e.2.key = k → e'.2.key = k → e.1 ≠ e'.1 →
      before e.1 e'.1 ∨ before e'.1 e.1) (values : Values) :
    Entries.get? (replay values x) k = Entries.get? (replay values y) k := by
  have mem : ∀ {e : String × Touch}, e ∈ x ↔ e ∈ y := fun {e} => by
    rw [← mem_touchesOf, ← mem_touchesOf, same]
  rw [get?_replay, get?_replay]
  cases he : latest k x with
  | none =>
    cases he' : latest k y with
    | none => rfl
    | some e' =>
      obtain ⟨hm, hk⟩ := mem_of_latest he'
      obtain ⟨e, hsome⟩ := exists_latest (mem.2 hm) hk
      cases he.symm.trans hsome
  | some e =>
    obtain ⟨hm, hk⟩ := mem_of_latest he
    obtain ⟨e', he'⟩ := exists_latest (mem.1 hm) hk
    obtain ⟨hm', hk'⟩ := mem_of_latest he'
    -- Two nodes that touch the key are ordered, and either log would have the later one last.
    have hnode : e.1 = e'.1 := by
      by_contra hne
      have hxe := (hx.of_latest he (mem.2 hm') hk').resolve_left fun h => hne (congrArg Prod.fst h).symm
      have hye := (hy.of_latest he' (mem.1 hm) hk).resolve_left fun h => hne (congrArg Prod.fst h)
      exact (total e hm e' (mem.2 hm') hk hk' hne).elim hxe hye
    have htouch := find?_touchesOf he
    rw [hnode, same, find?_touchesOf he'] at htouch
    rw [he']
    exact congrArg Touch.value? (Option.some.inj htouch).symm

end Log

end Conduit
