import Conduit.Proofs.Except
import Conduit.Store.Files

/-!
# Paths to the files of a directory

The path of a directory with a name behind it leads to the file of that name in the directory, and
to no other file. A file that is read there is among the names of the directory.
-/

namespace Conduit

/-! ## Segments -/

namespace Text

variable {separator : Char} {front back : List Char}

theorem segmentsOf_of_not_mem (h : separator ∉ front) : segmentsOf separator front = [front] := by
  induction front with
  | nil => rfl
  | cons c front ih =>
    rw [List.mem_cons, not_or] at h
    rw [segmentsOf, if_neg (Ne.symm h.1), ih h.2]

theorem segmentsOf_append (front back : List Char) :
    segmentsOf separator (front ++ separator :: back) =
      segmentsOf separator front ++ segmentsOf separator back := by
  induction front with
  | nil => simp [segmentsOf]
  | cons c front ih =>
    rw [List.cons_append, segmentsOf, segmentsOf, ih]
    split
    · rfl
    · cases h : segmentsOf separator front with
      | nil => exact absurd h (segmentsOf_ne_nil separator front)
      | cons s more => rfl

theorem segments_eq_append {text path name : String}
    (cut : text.toList = path.toList ++ separator :: name.toList) (h : separator ∉ name.toList) :
    segments separator text = segments separator path ++ [name] := by
  unfold segments
  rw [cut, segmentsOf_append, segmentsOf_of_not_mem h, List.map_append, List.map_singleton,
    String.ofList_toList]

theorem segments_ne_nil (separator : Char) (text : String) : segments separator text ≠ [] := by
  unfold segments
  rw [Ne, List.map_eq_nil_iff]
  exact segmentsOf_ne_nil separator text.toList

theorem eq_of_segments {text s : String} (h : segments separator text = [s]) : text = s := by
  obtain ⟨chars, hs, rfl⟩ := List.map_eq_singleton_iff.1 h
  have := intercalate_segmentsOf separator text.toList
  rw [hs] at this
  rw [← String.ofList_toList (s := text), ← this]
  simp [List.intercalate, List.intersperse]

end Text

open Text

/-! ## Extensions -/

theorem extension?_append_json {id : String} (h : id ≠ "") :
    extension? (id ++ ".json") = some "json" := by
  have cut : segments '.' (id ++ ".json") = segments '.' id ++ ["json"] :=
    segments_eq_append (by rw [String.toList_append]; rfl) (by decide)
  unfold extension?
  rw [cut, List.reverse_append]
  cases front : (segments '.' id).reverse with
  | nil => exact absurd (List.reverse_eq_nil_iff.1 front) (segments_ne_nil '.' id)
  | cons s more =>
    cases more with
    | nil =>
      rw [List.reverse_eq_iff] at front
      have : s.isEmpty = false := by
        rw [← eq_of_segments front]
        simpa using h
      simp [this]
    | cons t more => rfl

theorem ne_of_extension? {name ext : String} (h : extension? name = some ext) :
    name ≠ "" ∧ name ≠ "." := by
  constructor
  · rintro rfl
    cases h
  · rintro rfl
    cases h

/-! ## Names behind a directory -/

namespace Files

variable {files : Files} {start place : List String} {path name other : String}

theorem join_eq (plain : '/' ∉ name.toList) : join path name = path ++ "/" ++ name := by
  unfold join
  rw [if_neg]
  unfold isAbsolute
  rw [decide_eq_true_iff]
  exact fun h => plain (List.mem_of_mem_head? h)

theorem toList_join (plain : '/' ∉ name.toList) :
    (join path name).toList = path.toList ++ '/' :: name.toList := by
  rw [join_eq plain, String.toList_append, String.toList_append, List.append_assoc]
  rfl

theorem segments_join (plain : '/' ∉ name.toList) :
    segments '/' (join path name) = segments '/' path ++ [name] :=
  segments_eq_append (toList_join plain) plain

theorem names_join (plain : '/' ∉ name.toList) (hn : name ≠ "") (hd : name ≠ ".") :
    names (join path name) = names path ++ [name] := by
  unfold names
  rw [segments_join plain, List.filter_append]
  simp [hn, hd]

/-- Paths to files of one directory are the same only if they name the same file. -/
theorem eq_of_samePath (hn : '/' ∉ name.toList) (hn' : name ≠ "" ∧ name ≠ ".")
    (ho : '/' ∉ other.toList) (ho' : other ≠ "" ∧ other ≠ ".")
    (h : samePath (join path name) (join path other) = true) : name = other := by
  unfold samePath at h
  rw [Bool.and_eq_true, names_join hn hn'.1 hn'.2, names_join ho ho'.1 ho'.2] at h
  exact List.singleton_inj.1 (List.append_cancel_left (eq_of_beq h.2))

theorem ne_empty_of_directory (there : files.directory start path = .ok place) : path ≠ "" := by
  rintro rfl
  cases there

theorem origin_join (nonempty : path ≠ "") (plain : '/' ∉ name.toList) :
    origin start (join path name) = origin start path := by
  unfold origin isAbsolute
  rw [toList_join plain]
  cases h : path.toList with
  | nil => exact absurd (String.toList_eq_nil_iff.1 h) nonempty
  | cons c more => rfl

theorem parent_join (there : files.directory start path = .ok place) (plain : '/' ∉ name.toList)
    {at' : List String × String} (h : files.parent start (join path name) = .ok at') :
    at' = (place, name) := by
  have nonempty := ne_empty_of_directory there
  obtain ⟨_, -, there⟩ := Except.exists_of_bind there
  obtain ⟨_, -, h⟩ := Except.exists_of_bind h
  obtain ⟨here, followed, made⟩ := Except.exists_of_bind h
  rw [segments_join plain, List.dropLast_concat, origin_join nonempty plain, there] at followed
  cases followed
  rw [segments_join plain, List.getLast?_concat] at made
  exact (Except.ok.inj made).symm

theorem text?_of_read (there : files.directory start path = .ok place) (plain : '/' ∉ name.toList)
    {text : String} (h : files.read start (join path name) = .ok text) :
    files.text? (place ++ [name]) = some text := by
  obtain ⟨at', parent, h⟩ := Except.exists_of_bind h
  rw [parent_join there plain parent] at h
  dsimp only at h
  split at h
  · cases h
  split at h
  · cases h
  split at h
  · cases h
  split at h
  · next text' found =>
    cases h
    exact found
  · cases h

theorem mem_list_of_text? {text : String} (h : files.text? (place ++ [name]) = some text) :
    name ∈ files.list place := by
  unfold text? at h
  obtain ⟨f, found, -⟩ := Option.map_eq_some_iff.1 h
  have mem := List.mem_of_find?_eq_some found
  have same : f.1 = place ++ [name] := by simpa using List.find?_some found
  unfold list
  rw [List.mem_eraseDups, List.mem_filterMap]
  refine ⟨f.1, List.mem_append_left _ (List.mem_map_of_mem mem), ?_⟩
  rw [same]
  simp

/-! ## Paths that lead to one file -/

theorem follow_filter (files : Files) (here : List String) (steps : List String) :
    files.follow here steps = files.follow here (steps.filter fun s => s != "" && s != ".") := by
  induction steps generalizing here with
  | nil => rfl
  | cons s steps ih =>
    by_cases stays : s = "" ∨ s = "."
    · have enter : files.enter here s = .ok here := by rcases stays with rfl | rfl <;> rfl
      have out : (s != "" && s != ".") = false := by rcases stays with rfl | rfl <;> rfl
      rw [List.filter_cons_of_neg (by rw [out]; decide), ← ih here, follow, List.foldlM_cons, enter]
      rfl
    · rw [not_or] at stays
      rw [List.filter_cons_of_pos (by simpa using stays), follow, follow, List.foldlM_cons,
        List.foldlM_cons]
      cases files.enter here s with
      | error t => rfl
      | ok next => exact ih next

theorem exists_of_read {path text : String} (h : files.read start path = .ok text) :
    ∃ init last here, names path = init ++ [last] ∧
      files.follow (origin start path) init = .ok here ∧
      files.text? (here ++ [last]) = some text := by
  obtain ⟨⟨here, last⟩, parent, h⟩ := Except.exists_of_bind h
  dsimp only at h
  split at h
  · cases h
  next step =>
  split at h
  · cases h
  split at h
  · cases h
  split at h
  · next text' found =>
    cases h
    obtain ⟨_, -, parent⟩ := Except.exists_of_bind parent
    obtain ⟨here', followed, made⟩ := Except.exists_of_bind parent
    cases Except.ok.inj made
    -- The last segment names the file, and those before it are followed.
    have cut := List.dropLast_concat_getLast (segments_ne_nil '/' path)
    rw [List.getLast?_eq_some_getLast (segments_ne_nil '/' path), Option.getD_some] at step found
    generalize (segments '/' path).getLast (segments_ne_nil '/' path) = last at *
    refine ⟨_, last, here, ?_, (follow_filter files _ _).symm.trans followed, found⟩
    unfold isStep at step
    simp only [Bool.or_eq_true, beq_iff_eq, not_or] at step
    have split : names path =
        ((segments '/' path).dropLast ++ [last]).filter fun s => s != "" && s != "." := by
      rw [cut]
      rfl
    rw [split, List.filter_append]
    simp [step.1.1, step.1.2]
  · cases h

/-- Paths that are the same but for marks that lead nowhere are not read differently. -/
theorem read_eq_of_samePath {p q t u : String} (same : samePath p q = true)
    (hp : files.read start p = .ok t) (hq : files.read start q = .ok u) : t = u := by
  unfold samePath at same
  obtain ⟨absolute, same⟩ := Bool.and_eq_true_iff.1 same
  have origins : origin start p = origin start q := by
    unfold origin
    rw [eq_of_beq absolute]
  obtain ⟨init, last, here, hn, followed, found⟩ := exists_of_read hp
  obtain ⟨init', last', here', hn', followed', found'⟩ := exists_of_read hq
  rw [hn, hn', beq_iff_eq] at same
  obtain ⟨rfl, rfl⟩ := List.append_singleton_inj.1 same
  rw [origins, followed'] at followed
  cases followed
  exact Option.some.inj (found.symm.trans found')

end Files

end Conduit
