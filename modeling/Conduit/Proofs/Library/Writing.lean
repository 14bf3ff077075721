import Conduit.Component.Library
import Conduit.Proofs.Entries
import Conduit.Proofs.Except

/-!
# What components write

Every standard component writes last: whatever it looks at, waits for and is replied, nothing is
written on the way to a failure, and on success just what its kind and its parameters declare.
-/

namespace Conduit

/-! ## Writing last -/

/-- Whatever values it sees, replies it gets and cancellations come, the execution fails before it
writes, or writes what is declared for the values that it saw and is done. -/
inductive Activity.WritesLast : (Values → Entries Value → Prop) → Activity → Prop where
  | failed {declared : Values → Entries Value → Prop} (e : ComponentError) :
      WritesLast declared (.fail e)
  | writes {declared : Values → Entries Value → Prop} {pairs : Entries Value}
      (each : ∀ seen, declared seen pairs) : WritesLast declared (.writeAll pairs .done)
  | look {declared : Values → Entries Value → Prop} {next : Values → Activity}
      (each : ∀ seen, WritesLast (fun _ => declared seen) (next seen)) :
      WritesLast declared (.look next)
  | emit {declared : Values → Entries Value → Prop} {next : Activity} (value : Value)
      (rest : WritesLast declared next) : WritesLast declared (.emit value next)
  | note {declared : Values → Entries Value → Prop} {next : Activity} (n : Note)
      (rest : WritesLast declared next) : WritesLast declared (.note n next)
  | pause {declared : Values → Entries Value → Prop} {next stopped : Activity} (ms : Nat)
      (rest : WritesLast declared next) (halted : WritesLast declared stopped) :
      WritesLast declared (.pause ms next stopped)
  | send {declared : Values → Entries Value → Prop} {next : Http.Reply → Activity}
      {stopped : Activity} (request : Http.Request) (each : ∀ reply, WritesLast declared (next reply))
      (halted : WritesLast declared stopped) : WritesLast declared (.send request next stopped)

/-- The execution is one of the created component, prepared or not. -/
inductive Draft.Runs (d : Draft) : Activity → Prop where
  | unprepared : Runs d d.unprepared
  | prepared (config : Config) {activity : Activity} (h : d.prepare config = .ok activity) :
      Runs d activity

theorem Draft.Runs.plain {kind : String} {made activity : Activity}
    (h : (Draft.plain kind made).Runs activity) : activity = made := by
  cases h with
  | unprepared => rfl
  | prepared config h => exact (Except.ok.inj h).symm

theorem Draft.Runs.exists_read {α : Type} {read : Except ComponentError α} {kind : String}
    {made : α → Activity} {d : Draft} {activity : Activity} (runs : d.Runs activity)
    (created : (read >>= fun a => pure (.plain kind (made a))) = .ok d) :
    ∃ a, read = .ok a ∧ activity = made a := by
  obtain ⟨a, read, same⟩ := Except.exists_of_bind created
  cases same
  exact ⟨a, read, runs.plain⟩

/-- The execution failed and left the values as they were, or it succeeded and left them with
declared ones put into them. -/
def Activity.Left (before : Values) (declared : Entries Value → Prop) (after : Values) (result : Result) :
    Prop :=
  (∃ e, result = .failed e ∧ after = before) ∨
    result = .succeeded ∧ ∃ pairs, declared pairs ∧ after = Entries.insertAll before pairs

namespace Activity

theorem play_writeAll (network : Http.Network) (cancelAt : Option Nat) (pairs : Entries Value)
    (s : Scene) (now : Nat) : (writeAll pairs .done).play network cancelAt s now =
      ({ s with values := Entries.insertAll s.values pairs }, .succeeded, now) := by
  induction pairs generalizing s with
  | nil => rfl
  | cons p pairs ih => exact ih { s with values := s.values.set p.1 p.2 }

theorem WritesLast.play {declared : Values → Entries Value → Prop} {activity : Activity}
    (h : activity.WritesLast declared) (network : Http.Network) (cancelAt : Option Nat) (s : Scene)
    (now : Nat) : Left s.values (declared s.values) (activity.play network cancelAt s now).1.values
      (activity.play network cancelAt s now).2.1 := by
  induction h generalizing s now with
  | failed e => exact .inl ⟨e, rfl, rfl⟩
  | writes each =>
    rw [play_writeAll]
    exact .inr ⟨rfl, _, each s.values, rfl⟩
  | look each ih => exact ih s.values s now
  | emit value rest ih => exact ih { s with emitted := s.emitted ++ [value] } now
  | note n rest ih => exact ih { s with notes := s.notes ++ [n] } now
  | pause ms rest halted ihr ihh =>
    unfold Activity.play
    split
    · exact ihh { s with cancelled := true } _
    · exact ihr s _
  | send request each halted ihe ihh =>
    unfold Activity.play
    dsimp only
    split
    · exact ihh { s with cancelled := true } _
    · exact ihe _ s _

section

variable {declared : Values → Entries Value → Prop} {key key' : String} {value value' : Value}

theorem WritesLast.nothing (h : ∀ seen, declared seen []) : done.WritesLast declared := .writes h

theorem WritesLast.one (h : ∀ seen, declared seen [(key, value)]) :
    (Activity.write key value .done).WritesLast declared := .writes h

theorem WritesLast.two (h : ∀ seen, declared seen [(key, value), (key', value')]) :
    (Activity.write key value (.write key' value' .done)).WritesLast declared := .writes h

end

theorem WritesLast.noteAll {declared : Values → Entries Value → Prop} {next : Activity}
    (h : next.WritesLast declared) (notes : List Note) : (noteAll notes next).WritesLast declared := by
  induction notes with
  | nil => exact h
  | cons n notes ih => exact .note n ih

end Activity

namespace Library

open Json Http

/-! ## Declarations -/

/-- What a component of the kind and parameters writes when it succeeds, having seen the values. -/
inductive Declared (parameters : Json) (seen : Values) : String → Entries Value → Prop where
  | values {values : Entries Json} (read : readParameters setValuesDecoder parameters = .ok values) :
      Declared parameters seen "context.set" (values.mapValues Value.ofJson)
  | ending : Declared parameters seen "control.end" [(Values.endKey, .bool true)]
  | jump {p : RouteParameters} (read : readParameters routeDecoder parameters = .ok p)
      {node : String} (target : routeTarget p (Entries.get? seen (p.key.getD "route")) = some node) :
      Declared parameters seen "control.route" [(Values.overrideKey, .string node)]
  | noJump {p : RouteParameters} (read : readParameters routeDecoder parameters = .ok p)
      (target : routeTarget p (Entries.get? seen (p.key.getD "route")) = none) :
      Declared parameters seen "control.route" []
  | parsed {keys : KeyMapping} (read : keyMapping parameters "json" "parsed" = .ok keys)
      {text : String} (given : Entries.get? seen keys.input = some (.string text)) {j : Json}
      (parsed : Json.parse text = .ok j) :
      Declared parameters seen "transform.json_parse" [(keys.output, .ofJson j)]
  | printed {keys : KeyMapping} (read : keyMapping parameters "value" "json" = .ok keys) {v : Value}
      (given : Entries.get? seen keys.input = some v) :
      Declared parameters seen "transform.json_stringify"
        [(keys.output, .string (Json.pretty v.toJson))]
  | replied {p : BackendParameters} (read : readParameters backendDecoder parameters = .ok p)
      {status : Nat} (success : isSuccess status = true) (body : String) :
      Declared parameters seen "http.request"
        [(p.outputKey, bodyValue body), (p.outputKey ++ "_status", .number (.ofNat status))]
  | nothing {kind : String} (h : kind ∈ ["debug.log", "time.delay", "stream.emit"]) :
      Declared parameters seen kind []

/-! ## The components -/

section

variable {parameters : Json}

theorem writesLast_jsonParse {keys : KeyMapping}
    (read : keyMapping parameters "json" "parsed" = .ok keys) :
    (jsonParse keys).WritesLast fun seen => Declared parameters seen "transform.json_parse" := by
  refine .look fun seen => ?_
  split
  · exact .failed _
  · next text given =>
    split
    · next j parsed => exact .one fun _ => .parsed read given parsed
    · exact .failed _
  · exact .failed _

theorem writesLast_jsonStringify {keys : KeyMapping}
    (read : keyMapping parameters "value" "json" = .ok keys) :
    (jsonStringify keys).WritesLast fun seen =>
      Declared parameters seen "transform.json_stringify" := by
  refine .look fun seen => ?_
  split
  · exact .failed _
  · next v given => exact .one fun _ => .printed read given

theorem writesLast_route {p : RouteParameters} (read : readParameters routeDecoder parameters = .ok p) :
    (route p).WritesLast fun seen => Declared parameters seen "control.route" := by
  refine .look fun seen => ?_
  split
  · next node target => exact .one fun _ => .jump read target
  · next target => exact .nothing fun _ => .noJump read target

theorem writesLast_storeReply {p : BackendParameters}
    (read : readParameters backendDecoder parameters = .ok p) (seen : Values) (request : Request)
    (normal : String) (reply : Reply) :
    (storeReply p request normal reply).WritesLast fun _ =>
      Declared parameters seen "http.request" := by
  cases reply with
  | lost => exact .failed _
  | broken text => exact .failed _
  | answered status body =>
    rw [storeReply]
    split
    · next success => exact .two fun _ => .replied read success body
    · exact .failed _

theorem writesLast_callBackend {p : BackendParameters}
    (read : readParameters backendDecoder parameters = .ok p) :
    (callBackend p).WritesLast fun seen => Declared parameters seen "http.request" := by
  refine .look fun seen => ?_
  split
  · exact .failed _
  · exact .send _ (writesLast_storeReply read seen _ _) (.failed _)

theorem writesLast_log (p : LogParameters) :
    (log p).WritesLast fun seen => Declared parameters seen "debug.log" := by
  refine .note _ (.look fun seen => .noteAll (.nothing fun _ => ?_) _)
  exact .nothing (by decide)

theorem writesLast_emitKey (p : EmitParameters) :
    (emitKey p).WritesLast fun seen => Declared parameters seen "stream.emit" := by
  have nothing : ∀ seen, Declared parameters seen "stream.emit" [] := fun _ =>
    .nothing (by decide)
  refine .look fun seen => ?_
  split
  · exact .emit _ (.nothing fun _ => nothing seen)
  · split
    · exact .failed _
    · exact .nothing fun _ => nothing seen

theorem writesLast_delay (ms : Nat) :
    (delay ms).WritesLast fun seen => Declared parameters seen "time.delay" :=
  .pause _ (.nothing fun _ => .nothing (by decide)) (.failed _)

end

/-- Every execution of a created standard component writes last, and what its kind and parameters
declare. -/
theorem writesLast_of_standard {f : Factory} (hf : f ∈ standard) {parameters : Json} {draft : Draft}
    (created : f.create parameters = .ok draft) {activity : Activity} (runs : draft.Runs activity) :
    activity.WritesLast fun seen => Declared parameters seen f.kind := by
  simp only [standard, List.mem_cons, List.not_mem_nil, or_false] at hf
  rcases hf with rfl | rfl | rfl | rfl | rfl | rfl | rfl | rfl | rfl | rfl
  · obtain ⟨p, -, rfl⟩ := runs.exists_read created
    exact writesLast_log p
  · obtain ⟨p, read, made⟩ := Except.exists_of_bind created
    cases made
    -- Preparing only checks the address.
    have same : activity = callBackend p := by
      cases runs with
      | unprepared => rfl
      | prepared config h =>
        obtain ⟨_, -, same⟩ := Except.exists_of_map h
        exact same.symm
    rw [same]
    exact writesLast_callBackend read
  · obtain ⟨keys, read, rfl⟩ := runs.exists_read created
    exact writesLast_jsonParse read
  · obtain ⟨keys, read, rfl⟩ := runs.exists_read created
    exact writesLast_jsonStringify read
  · obtain ⟨ms, -, rfl⟩ := runs.exists_read created
    exact writesLast_delay ms
  · obtain ⟨values, read, rfl⟩ := runs.exists_read created
    exact .writes fun _ => .values read
  · cases created
    rw [runs.plain]
    exact .one fun _ => .ending
  · obtain ⟨p, read, rfl⟩ := runs.exists_read created
    exact writesLast_route read
  · obtain ⟨message, -, rfl⟩ := runs.exists_read created
    exact .failed _
  · obtain ⟨p, -, rfl⟩ := runs.exists_read created
    exact writesLast_emitKey p

/-! ## Keys that are written once -/

section

variable {σ : Type} {P : σ → Prop} {fields : List (Decoder.Field σ)}

/-- Every field of the record keeps the property. -/
def FieldsKeep (P : σ → Prop) (fields : List (Decoder.Field σ)) : Prop :=
  ∀ f ∈ fields, ∀ j set, f.store.ofJson j = .ok set → ∀ s, P s → P (set s)

theorem recordOfMembers_keeps (keep : FieldsKeep P fields) {members : List (String × Json)}
    {seen : List Nat} {s s' : σ} (hs : P s)
    (read : Decoder.recordOfMembers fields members seen s = .ok s') : P s' := by
  induction members generalizing seen s with
  | nil =>
    obtain ⟨_, -, same⟩ := Except.exists_of_bind read
    cases same
    exact hs
  | cons m members ih =>
    obtain ⟨key, j⟩ := m
    unfold Decoder.recordOfMembers at read
    split at read
    · exact ih hs read
    · next f i found =>
      split at read
      · cases read
      · obtain ⟨set, hset, read⟩ := Except.exists_of_bind read
        have mem : f ∈ fields := List.fst_mem_of_mem_zipIdx (List.mem_of_find?_eq_some found)
        exact ih (keep f mem j set hset s hs) read

theorem recordOfItems_keeps {what excess : String} {total taken : Nat}
    (keep : FieldsKeep P fields) {items : List Json} {s s' : σ} (hs : P s)
    (read : Decoder.recordOfItems what excess total fields taken items s = .ok s') : P s' := by
  induction fields generalizing taken items s with
  | nil =>
    unfold Decoder.recordOfItems at read
    split at read
    · cases read
      exact hs
    · cases read
  | cons f fields ih =>
    have keep' : FieldsKeep P fields := fun g hg => keep g (List.mem_cons_of_mem _ hg)
    cases items with
    | nil =>
      unfold Decoder.recordOfItems at read
      split at read
      · cases read
      · exact ih keep' hs read
    | cons j items =>
      obtain ⟨set, hset, read⟩ := Except.exists_of_bind read
      exact ih keep' (keep f List.mem_cons_self j set hset s hs) read

theorem record_keeps (name : String) {blank : σ} (first : P blank) (keep : FieldsKeep P fields)
    {j : Json} {s : σ} (read : (Decoder.record name fields blank).ofJson j = .ok s) : P s := by
  unfold Decoder.record at read
  dsimp only at read
  split at read
  · exact recordOfItems_keeps keep first read
  · exact recordOfMembers_keeps keep first read
  · cases read

end

theorem sorted_entries {α : Type} {d : Decoder α} {j : Json} {values : Entries α}
    (read : (Decoder.entries d).ofJson j = .ok values) : values.Sorted := by
  unfold Decoder.entries at read
  dsimp only at read
  split at read
  · obtain ⟨pairs, -, made⟩ := Except.exists_of_bind read
    cases made
    exact Entries.sorted_ofPairs pairs
  · cases read

theorem sorted_setValues {parameters : Json} {values : Entries Json}
    (read : readParameters setValuesDecoder parameters = .ok values) : values.Sorted := by
  refine record_keeps "SetValuesParams" Entries.sorted_nil ?_ (Except.of_mapError read)
  intro f hf j set hset s hs
  cases List.mem_singleton.1 hf
  obtain ⟨values, read, rfl⟩ := Except.exists_of_map hset
  exact sorted_entries read

theorem append_status_ne (key : String) : key ++ "_status" ≠ key := by
  intro h
  have := congrArg String.length h
  simp at this

theorem Declared.nodup {parameters : Json} {seen : Values} {kind : String} {pairs : Entries Value}
    (h : Declared parameters seen kind pairs) : (Entries.keys pairs).Nodup := by
  cases h with
  | values read =>
    rw [Entries.keys_mapValues]
    exact (sorted_setValues read).nodup_keys
  | @replied p =>
    refine List.nodup_cons.2 ⟨?_, List.nodup_cons.2 ⟨nofun, List.nodup_nil⟩⟩
    intro same
    exact append_status_ne p.outputKey (List.mem_singleton.1 same).symm
  | ending | jump | parsed | printed => exact List.nodup_cons.2 ⟨nofun, List.nodup_nil⟩
  | noJump | nothing => exact List.nodup_nil

/-! ## What an execution leaves -/

/-- An execution of a standard component that fails has changed no value, and one that succeeds has
given the declared keys their declared values and changed no other. -/
theorem writes_as_declared {f : Factory} (hf : f ∈ standard) {parameters : Json} {draft : Draft}
    (created : f.create parameters = .ok draft) {activity : Activity} (runs : draft.Runs activity)
    (network : Http.Network) (cancelAt : Option Nat) (s : Scene) (now : Nat) :
    ∃ s' result time, activity.play network cancelAt s now = (s', result, time) ∧
      ((∃ e, result = .failed e ∧ s'.values = s.values) ∨
        result = .succeeded ∧ ∃ pairs, Declared parameters s.values f.kind pairs ∧
          ∀ key, Entries.get? s'.values key =
            (Entries.get? pairs key).or (Entries.get? s.values key)) := by
  have left := (writesLast_of_standard hf created runs).play network cancelAt s now
  refine ⟨_, _, _, rfl, left.imp_right ?_⟩
  rintro ⟨succeeded, pairs, declared, values⟩
  refine ⟨succeeded, pairs, declared, fun key => ?_⟩
  rw [values]
  exact Entries.get?_insertAll declared.nodup s.values key

/-- The parameters of a router with one route. -/
def oneRoute : Json :=
  .object [("key", .string "k"), ("routes", .object [("go", .string "next")])]

theorem writes_as_declared_route :
    let activity := route ⟨some "k", [("go", "next")], none⟩
    let s : Scene := ⟨[("k", .string "go")], false, [], []⟩
    routeFactory ∈ standard ∧ routeFactory.create oneRoute = .ok (.plain "control.route" activity) ∧
      ∃ s' pairs, activity.play Http.unreachable none s 0 = (s', .succeeded, 0) ∧
        Declared oneRoute s.values "control.route" pairs ∧
        Entries.get? pairs Values.overrideKey = some (.string "next") ∧
        Entries.get? s'.values "k" = (Entries.get? pairs "k").or (some (.string "go")) := by
  intro activity s
  have mem : routeFactory ∈ standard := by simp [standard]
  have created : routeFactory.create oneRoute = .ok (.plain "control.route" activity) := rfl
  have played : activity.play Http.unreachable none s 0 =
      (⟨[("k", .string "go"), ("nextOverride", .string "next")], false, [], []⟩, .succeeded, 0) := rfl
  obtain ⟨s', result, time, play, failed | ⟨-, pairs, declared, values⟩⟩ :=
    writes_as_declared mem created .unprepared Http.unreachable none s 0
  · obtain ⟨e, failed, -⟩ := failed
    cases played.symm.trans play
    cases failed
  · cases played.symm.trans play
    refine ⟨mem, created, _, pairs, played, declared, ?_, values "k"⟩
    have override := values Values.overrideKey
    rw [show Entries.get? s.values Values.overrideKey = none from rfl, Option.or_none] at override
    exact override.symm

end Library

end Conduit
