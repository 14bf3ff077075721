import Conduit.Proofs.Entries
import Conduit.Proofs.Store.Paths
import Conduit.Store.Basic
import Mathlib.Data.List.Nodup

/-!
# Stores agree

A directory answers like a store in memory that holds the definitions of its files, in whatever
order its names come. For an id that could be the name of a file it does so unless some file cannot
be read. An id that is written like a path can lead out of the directory, and to a file by another
path than its own.
-/

namespace Conduit.Store

open Files

/-! ## The definitions of a directory -/

def definitionAt? (files : Files) (start : List String) (path name : String) : Option Definition :=
  if extension? name = some "json" then
    match files.read start (join path name) with
    | .error _ => none
    | .ok text => (Definition.decoder.parse text).toOption
  else none

/-- The enabled definition of an id in a directory whose names come in some order. -/
def findAmong (files : Files) (start : List String) (path id : String) (names : List String) :
    Except PipelineError (Option Definition) :=
  match files.read start (namedPath path id) with
  | .error _ => scan files start path id names
  | .ok text =>
    match Definition.decoder.parse text with
    | .error fault => .error (.serialization fault.message)
    | .ok d => if d.id = id then .ok (ifEnabled d) else scan files start path id names

/-- A store in memory into which the definitions were inserted in turn. -/
def stocked (definitions : List Definition) : Store := definitions.foldl Store.insert (.memory [])

/-- The names of a directory in some order, and the definitions of its files in some order. No two
definitions have one id. -/
structure Listing (files : Files) (start : List String) (path : String) where
  place : List String
  names : List String
  definitions : List Definition
  there : files.directory start path = .ok place
  order : names.Perm (files.list place)
  plain : ∀ name ∈ names, '/' ∉ name.toList
  exact : definitions.Perm (names.filterMap (definitionAt? files start path))
  distinct : (definitions.map Definition.id).Nodup

/-! ## A store in memory -/

def ofId? (id : String) (definitions : List Definition) : Option Definition :=
  definitions.find? fun d => decide (d.id = id)

theorem ofId?_eq_some_iff {id : String} {definitions : List Definition}
    (distinct : (definitions.map Definition.id).Nodup) {d : Definition} :
    ofId? id definitions = some d ↔ d ∈ definitions ∧ d.id = id := by
  constructor
  · intro h
    exact ⟨List.mem_of_find?_eq_some h, by simpa using List.find?_some h⟩
  · rintro ⟨mem, same⟩
    cases h : ofId? id definitions with
    | none =>
      have := List.find?_eq_none.1 h d mem
      simp [same] at this
    | some e =>
      have first : e.id = id := by simpa using List.find?_some h
      rw [List.inj_on_of_nodup_map distinct (List.mem_of_find?_eq_some h) mem
        (first.trans same.symm)]

theorem foldl_insert (definitions : List Definition) (pipelines : Entries Definition) :
    definitions.foldl Store.insert (.memory pipelines) =
      .memory (Entries.insertAll pipelines (definitions.map fun d => (d.id, d))) := by
  induction definitions generalizing pipelines with
  | nil => rfl
  | cons d definitions ih => exact ih (Entries.insert d.id d pipelines)

theorem get?_map_id (id : String) (definitions : List Definition) :
    Entries.get? (definitions.map fun d => (d.id, d)) id = ofId? id definitions := by
  unfold ofId?
  induction definitions with
  | nil => rfl
  | cons d definitions ih =>
    rw [List.map_cons, Entries.get?_cons, List.find?_cons, ih]
    by_cases h : d.id = id <;> simp [h]

theorem find_stocked (files : Files) (id : String) {definitions : List Definition}
    (distinct : (definitions.map Definition.id).Nodup) :
    (stocked definitions).find files id = .ok ((ofId? id definitions).bind ifEnabled) := by
  have keys : (Entries.keys (definitions.map fun d => (d.id, d))).Nodup := by
    rw [Entries.keys, List.map_map]
    exact distinct
  rw [stocked, foldl_insert, find, Entries.get?_insertAll keys, get?_map_id]
  cases ofId? id definitions <;> rfl

/-! ## Scanning -/

section

variable {files : Files} {start : List String} {path id : String}

/-- The outcome is the error of a file that is not passed over and cannot be read. -/
def Halted (files : Files) (start : List String) (path id : String) (names : List String)
    (outcome : Except PipelineError (Option Definition)) : Prop :=
  ∃ name ∈ names, ∃ t, isPassedOver path id name = false ∧
    files.read start (join path name) = .error t ∧ outcome = .error (troubled t)

theorem extension?_of_kept {name : String} (kept : isPassedOver path id name = false) :
    extension? name = some "json" := by
  unfold isPassedOver at kept
  simpa using (Bool.or_eq_false_iff.1 kept).1

/-- A scan ends at a file that cannot be read, or finds the first definition of the id among the
files that are not passed over. -/
theorem scan_cases (files : Files) (start : List String) (path id : String) (names : List String) :
    Halted files start path id names (scan files start path id names) ∨
    scan files start path id names =
      .ok ((ofId? id ((names.filter fun name => !isPassedOver path id name).filterMap
        (definitionAt? files start path))).bind ifEnabled) := by
  induction names with
  | nil => exact .inr rfl
  | cons name names ih =>
    have later := ih.imp_left fun halted : Halted files start path id names _ =>
      (show Halted files start path id (name :: names) _ from
        halted.imp fun other h => h.imp_left (List.mem_cons_of_mem name))
    unfold scan
    rw [List.filter_cons]
    cases passed : isPassedOver path id name with
    | true => simpa using later
    | false =>
      rw [if_neg Bool.false_ne_true, Bool.not_false, if_pos rfl, List.filterMap_cons, definitionAt?,
        if_pos (extension?_of_kept passed)]
      cases read : files.read start (join path name) with
      | error t => exact .inl ⟨name, List.mem_cons_self, t, passed, read, rfl⟩
      | ok text =>
        dsimp only
        cases parsed : Definition.decoder.parse text with
        | error fault => exact later
        | ok d =>
          dsimp only [Except.toOption]
          by_cases same : d.id = id
          · right
            rw [if_pos same, ofId?, List.find?_cons_of_pos (by simpa using same)]
            rfl
          · rw [if_neg same, ofId?, List.find?_cons_of_neg (by simpa using same)]
            exact later

end

/-! ## Agreement -/

/-- The id could be the name of a file. -/
def IsPlain (id : String) : Prop := id ≠ "" ∧ '/' ∉ id.toList

section

variable {files : Files} {start : List String} {path : String} (L : Listing files start path)
  (id : String)

/-- What a directory answers for an id. An id that could be the name of a file leads to the first
two answers only. -/
inductive Answer : Except PipelineError (Option Definition) → Prop where
  /-- What a store in memory with the directory's definitions answers. -/
  | agrees : Answer ((stocked L.definitions).find files id)
  | halted {outcome : Except PipelineError (Option Definition)}
      (h : Halted files start path id L.names outcome) : Answer outcome
  /-- The id leads to a file that is no definition. -/
  | noDefinition (stray : ¬IsPlain id) {text : String}
      (read : files.read start (namedPath path id) = .ok text) {fault : Json.Fault}
      (parsed : Definition.decoder.parse text = .error fault) :
      Answer (.error (.serialization fault.message))
  /-- The id leads to a file with a definition of that id. -/
  | elsewhere (stray : ¬IsPlain id) {text : String}
      (read : files.read start (namedPath path id) = .ok text) {d : Definition}
      (parsed : Definition.decoder.parse text = .ok d) (same : d.id = id) :
      Answer (.ok (ifEnabled d))
  /-- The id is that of a definition in a file of the directory that it leads to by another path, and
  that path cannot be read. -/
  | passedOver (stray : ¬IsPlain id) {t : Trouble}
      (unread : files.read start (namedPath path id) = .error t) {name : String}
      (mem : name ∈ L.names) (passed : isPassedOver path id name = true) {d : Definition}
      (held : definitionAt? files start path name = some d) (same : d.id = id) : Answer (.ok none)

variable {L id}

theorem Listing.mem_definitions {d : Definition} :
    d ∈ L.definitions ↔ ∃ name ∈ L.names, definitionAt? files start path name = some d := by
  rw [L.exact.mem_iff, List.mem_filterMap]

theorem Listing.distinct_names :
    ((L.names.filterMap (definitionAt? files start path)).map Definition.id).Nodup :=
  (L.exact.map Definition.id).nodup_iff.1 L.distinct

theorem Listing.distinct_filter (p : String → Bool) :
    (((L.names.filter p).filterMap (definitionAt? files start path)).map Definition.id).Nodup :=
  ((List.filter_sublist.filterMap _).map _).nodup L.distinct_names

theorem Listing.ofId?_filter {p : String → Bool}
    (h : ∀ name ∈ L.names, p name = false → ∀ d, definitionAt? files start path name = some d →
      d.id ≠ id) :
    ofId? id ((L.names.filter p).filterMap (definitionAt? files start path)) =
      ofId? id L.definitions := by
  refine Option.ext fun d => ?_
  rw [ofId?_eq_some_iff (L.distinct_filter p), ofId?_eq_some_iff L.distinct, L.mem_definitions,
    List.mem_filterMap]
  refine and_congr_left fun same => exists_congr fun name => ?_
  rw [List.mem_filter]
  constructor
  · rintro ⟨⟨mem, -⟩, held⟩
    exact ⟨mem, held⟩
  · rintro ⟨mem, held⟩
    refine ⟨⟨mem, ?_⟩, held⟩
    by_contra out
    exact h name mem (Bool.eq_false_iff.2 out) d held same

theorem Listing.ofId?_filter_of_held {p : String → Bool} {name : String} (mem : name ∈ L.names)
    (out : p name = false) {d : Definition} (held : definitionAt? files start path name = some d)
    (same : d.id = id) :
    ofId? id ((L.names.filter p).filterMap (definitionAt? files start path)) = none := by
  have parts := ((List.filter_append_perm p L.names).filterMap (definitionAt? files start path)).map
    Definition.id
  rw [List.filterMap_append, List.map_append] at parts
  have disjoint := (List.nodup_append.1 (parts.nodup_iff.2 L.distinct_names)).2.2
  cases h : ofId? id ((L.names.filter p).filterMap (definitionAt? files start path)) with
  | none => rfl
  | some e =>
    obtain ⟨found, first⟩ := (ofId?_eq_some_iff (L.distinct_filter p)).1 h
    have other : d ∈ (L.names.filter fun name => !p name).filterMap
        (definitionAt? files start path) :=
      List.mem_filterMap.2 ⟨name, List.mem_filter.2 ⟨mem, by rw [out]; rfl⟩, held⟩
    exact absurd (first.trans same.symm)
      (disjoint _ (List.mem_map_of_mem found) _ (List.mem_map_of_mem other))

theorem exists_read_of_held {name : String} {d : Definition}
    (held : definitionAt? files start path name = some d) :
    extension? name = some "json" ∧ ∃ text, files.read start (join path name) = .ok text ∧
      Definition.decoder.parse text = .ok d := by
  unfold definitionAt? at held
  split at held
  · next document =>
    refine ⟨document, ?_⟩
    split at held
    · cases held
    · next text read => exact ⟨text, read, Except.ok_of_toOption held⟩
  · cases held

theorem definitionAt?_of_read {name text : String} (document : extension? name = some "json")
    (read : files.read start (join path name) = .ok text) :
    definitionAt? files start path name = (Definition.decoder.parse text).toOption := by
  rw [definitionAt?, if_pos document, read]

theorem samePath_of_passed {name : String} (document : extension? name = some "json")
    (passed : isPassedOver path id name = true) :
    samePath (join path name) (namedPath path id) = true := by
  unfold isPassedOver at passed
  rw [document] at passed
  simpa using passed

theorem IsPlain.slash (plain : IsPlain id) : '/' ∉ (id ++ ".json").toList := by
  rw [String.toList_append, List.mem_append, not_or]
  exact ⟨plain.2, by decide⟩

/-- For an id that could be the name of a file only the file of that name is passed over. -/
theorem eq_of_passed (plain : IsPlain id) {name : String} (mem : name ∈ L.names)
    (document : extension? name = some "json") (passed : isPassedOver path id name = true) :
    name = id ++ ".json" :=
  eq_of_samePath (L.plain name mem) (ne_of_extension? document) plain.slash
    (ne_of_extension? (extension?_append_json plain.1)) (samePath_of_passed document passed)

theorem mem_of_read (plain : IsPlain id) {text : String}
    (read : files.read start (namedPath path id) = .ok text) :
    id ++ ".json" ∈ L.names ∧
      definitionAt? files start path (id ++ ".json") =
        (Definition.decoder.parse text).toOption := by
  have listed := mem_list_of_text? (text?_of_read L.there plain.slash read)
  exact ⟨L.order.mem_iff.2 listed, definitionAt?_of_read (extension?_append_json plain.1) read⟩

theorem answer_scan (h : ∀ name ∈ L.names, isPassedOver path id name = true → ∀ d,
    definitionAt? files start path name = some d → d.id ≠ id) :
    Answer L id (scan files start path id L.names) := by
  rcases scan_cases files start path id L.names with halted | found
  · exact .halted halted
  · rw [L.ofId?_filter (fun name mem out => h name mem (by simpa using out)),
      ← find_stocked files id L.distinct] at found
    rw [found]
    exact .agrees

theorem answer_of_unread {t : Trouble} (unread : files.read start (namedPath path id) = .error t) :
    Answer L id (scan files start path id L.names) := by
  by_cases h : ∀ name ∈ L.names, isPassedOver path id name = true → ∀ d,
      definitionAt? files start path name = some d → d.id ≠ id
  · exact answer_scan h
  · simp only [not_forall, not_not] at h
    obtain ⟨name, mem, passed, d, held, same⟩ := h
    obtain ⟨document, text, read, -⟩ := exists_read_of_held held
    have stray : ¬IsPlain id := by
      intro plain
      rw [eq_of_passed plain mem document passed] at read
      cases read.symm.trans unread
    rcases scan_cases files start path id L.names with halted | found
    · exact .halted halted
    · rw [L.ofId?_filter_of_held mem (by rw [passed]; rfl) held same] at found
      rw [found]
      exact .passedOver stray unread mem passed held same

theorem answer_of_other {text : String} (read : files.read start (namedPath path id) = .ok text)
    {d : Definition} (parsed : Definition.decoder.parse text = .ok d) (other : d.id ≠ id) :
    Answer L id (scan files start path id L.names) := by
  refine answer_scan fun name mem passed e held => ?_
  obtain ⟨document, text', read', parsed'⟩ := exists_read_of_held held
  -- The path tried before leads to the same file.
  rw [read_eq_of_samePath (samePath_of_passed document passed) read' read, parsed] at parsed'
  cases parsed'
  exact other

theorem answer_of_named {text : String} (read : files.read start (namedPath path id) = .ok text)
    {d : Definition} (parsed : Definition.decoder.parse text = .ok d) (same : d.id = id) :
    Answer L id (.ok (ifEnabled d)) := by
  by_cases plain : IsPlain id
  · obtain ⟨mem, held⟩ := mem_of_read (L := L) plain read
    rw [parsed] at held
    have first : ofId? id L.definitions = some d :=
      (ofId?_eq_some_iff L.distinct).2 ⟨L.mem_definitions.2 ⟨_, mem, held⟩, same⟩
    have agrees := find_stocked files id L.distinct
    rw [first, Option.bind_some] at agrees
    rw [← agrees]
    exact .agrees
  · exact .elsewhere plain read parsed same

theorem answer_findAmong
    (named : ∀ text, id ++ ".json" ∈ L.names → files.read start (namedPath path id) = .ok text →
      ∃ d, Definition.decoder.parse text = .ok d) :
    Answer L id (findAmong files start path id L.names) := by
  unfold findAmong
  split
  · next t unread => exact answer_of_unread unread
  · next text read =>
    split
    · next fault parsed =>
      refine .noDefinition (fun plain => ?_) read parsed
      obtain ⟨d, parsed'⟩ := named text (mem_of_read plain read).1 read
      cases parsed.symm.trans parsed'
    · next d parsed =>
      split
      · next same => exact answer_of_named read parsed same
      · next other => exact answer_of_other read parsed other

/-- An id that could be the name of a file is answered as in memory if every file can be read. -/
theorem Answer.eq_of_plain {outcome : Except PipelineError (Option Definition)}
    (h : Answer L id outcome) (plain : IsPlain id)
    (readable : ∀ name ∈ L.names, extension? name = some "json" →
      ∃ text, files.read start (join path name) = .ok text) :
    outcome = (stocked L.definitions).find files id := by
  cases h with
  | agrees => rfl
  | halted h =>
    obtain ⟨name, mem, t, kept, unread, -⟩ := h
    obtain ⟨text, read⟩ := readable name mem (extension?_of_kept kept)
    cases read.symm.trans unread
  | noDefinition stray => exact absurd plain stray
  | elsewhere stray => exact absurd plain stray
  | passedOver stray => exact absurd plain stray

/-- A directory whose definitions have different ids answers, in whatever order its names come, like
a store in memory with these definitions, but for a file that cannot be read and for ids that could
not be names of files. -/
theorem stores_agree (L : Listing files start path) (id : String)
    (named : ∀ text, id ++ ".json" ∈ L.names → files.read start (namedPath path id) = .ok text →
      ∃ d, Definition.decoder.parse text = .ok d) :
    Answer L id (findAmong files start path id L.names) ∧
      (IsPlain id → (∀ name ∈ L.names, extension? name = some "json" →
        ∃ text, files.read start (join path name) = .ok text) →
        findAmong files start path id L.names = (stocked L.definitions).find files id) ∧
      (Store.directory start path).find files id =
        findAmong files start path id (files.list L.place) := by
  refine ⟨answer_findAmong named, (answer_findAmong named).eq_of_plain, ?_⟩
  have scanned : scanAll files start path id = scan files start path id (files.list L.place) := by
    rw [scanAll, L.there]
  change findInDirectory files start path id = _
  unfold findInDirectory
  generalize scanAll files start path id = outcome at scanned
  subst scanned
  rfl

/-- A definition that stands beside the directory, and nothing in the directory. -/
def beside : Files :=
  ⟨[(["outside.json"], "\x7b\"id\":\"../outside\",\"nodes\":[]\x7d")], [["pipelines"]]⟩

def nothingListed : Listing beside [] "pipelines" where
  place := ["pipelines"]
  names := []
  definitions := []
  there := rfl
  order := .nil
  plain := nofun
  exact := .nil
  distinct := List.nodup_nil

theorem stores_agree_beside :
    Answer nothingListed "../outside" (findAmong beside [] "pipelines" "../outside" []) ∧
      (Store.directory [] "pipelines").find beside "../outside" =
        findAmong beside [] "pipelines" "../outside" [] ∧
      (∃ d, findAmong beside [] "pipelines" "../outside" [] = .ok (some d)) ∧
      (stocked []).find beside "../outside" = .ok none := by
  obtain ⟨answer, -, same⟩ := stores_agree nothingListed "../outside" nofun
  refine ⟨answer, same, ?_, rfl⟩
  have found : (findAmong beside [] "pipelines" "../outside" []).toOption.join.isSome = true := by
    decide +kernel
  obtain ⟨d, h⟩ := Option.isSome_iff_exists.1 found
  rw [Option.join_eq_some_iff] at h
  exact ⟨d, Except.ok_of_toOption h⟩

end

end Conduit.Store
