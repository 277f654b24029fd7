import Gatehouse.Proofs.Route.Segments
import Gatehouse.Route.Path

/-!
How a path is written.

`ApiPath.Spells` states the rule: the root, a version and a module, a parameter and an id that may
be left out, and at most one slash behind all of them. No part is empty, and no part has a slash in
it. The theorem at the end says that `ApiPath.parse?` reads the texts of that form and no others,
that such a text is the form of a single path, and that `ApiPath.text` writes one of them.
-/

namespace Gatehouse

open Segments

namespace ApiPath

/-- What may stand between two slashes of a path. -/
structure IsPart (part : String) : Prop where
  nonempty : part ≠ ""
  plain : '/' ∉ part.toList

/-- A part that may be left out, with the slash in front of it. -/
def optionalText : Option String → String
  | some part => "/" ++ part
  | none => ""

/-- A text is a form of a path. -/
structure Spells (path : ApiPath) (text : String) : Prop where
  version : IsPart path.version
  module : IsPart path.module
  param : ∀ part ∈ path.param, IsPart part
  paramId : ∀ part ∈ path.paramId, IsPart part
  /-- An id belongs to a parameter. -/
  param_of_paramId : path.paramId.isSome → path.param.isSome
  spelled : ∃ slash ∈ ["", "/"], text = "/api/" ++ path.version ++ "/" ++ path.module ++
    optionalText path.param ++ optionalText path.paramId ++ slash

/-! ## Writing -/

/-- The parts of a path after the root, as they stand between its slashes. -/
def parts (path : ApiPath) : List (List Char) := path.segments.map String.toList

theorem foldl_slash (segments : List String) (acc : List Char) :
    segments.foldl (fun acc s => acc ++ '/' :: s.toList) acc =
      ['/'].intercalate (acc :: segments.map String.toList) := by
  induction segments generalizing acc with
  | nil => simp
  | cons s segments ih =>
    rw [List.foldl_cons, ih, List.map_cons, List.intercalate_cons_cons]
    cases segments <;> simp

theorem toList_text (path : ApiPath) :
    path.text.toList = '/' :: ['/'].intercalate (root :: path.parts) := by
  rw [text, String.toList_ofList, foldl_slash, parts]
  cases path
  simp [segments]

theorem spelled_eq_text (path : ApiPath) :
    "/api/" ++ path.version ++ "/" ++ path.module ++ optionalText path.param ++
      optionalText path.paramId = path.text := by
  rcases path with ⟨version, module, _ | param, _ | id⟩ <;>
    apply String.toList_inj.mp <;> simp [text, segments, optionalText, root]

theorem isPart_iff {part : String} : IsPart part ↔ part.toList ≠ [] ∧ '/' ∉ part.toList := by
  rw [ne_eq, String.toList_eq_nil_iff]
  exact ⟨fun isPart => ⟨isPart.nonempty, isPart.plain⟩, fun both => ⟨both.1, both.2⟩⟩

/-- The rule, with the parts of the path taken together. -/
theorem spells_iff {path : ApiPath} {text : String} :
    path.Spells text ↔ (∀ part ∈ path.parts, part ≠ [] ∧ '/' ∉ part) ∧
      (path.paramId.isSome → path.param.isSome) ∧
        ∃ slash ∈ ["", "/"], text = path.text ++ slash := by
  have each : (∀ part ∈ path.parts, part ≠ [] ∧ '/' ∉ part) ↔
      IsPart path.version ∧ IsPart path.module ∧ (∀ part ∈ path.param, IsPart part) ∧
        ∀ part ∈ path.paramId, IsPart part := by
    simp only [parts, segments, isPart_iff, List.forall_mem_map, List.forall_mem_cons,
      List.forall_mem_append, Option.mem_toList, Option.mem_def]
  rw [each]
  constructor
  · rintro ⟨version, module, param, paramId, order, slash, isSlash, rfl⟩
    exact ⟨⟨version, module, param, paramId⟩, order, slash, isSlash, by rw [spelled_eq_text]⟩
  · rintro ⟨⟨version, module, param, paramId⟩, order, slash, isSlash, rfl⟩
    exact ⟨version, module, param, paramId, order, slash, isSlash, by rw [spelled_eq_text]⟩

/-! ## Reading -/

theorem ofSegments?_eq_some_iff {segments : List (List Char)} {path : ApiPath} :
    ofSegments? segments = some path ↔
      segments = path.parts ∧ (path.paramId.isSome → path.param.isSome) := by
  constructor
  · intro made
    unfold ofSegments? at made
    split at made <;> cases made <;> simp [parts, ApiPath.segments]
  · rintro ⟨rfl, order⟩
    rcases path with ⟨version, module, _ | param, _ | id⟩
    · simp [parts, ApiPath.segments, ofSegments?]
    · cases order rfl
    · simp [parts, ApiPath.segments, ofSegments?]
    · simp [parts, ApiPath.segments, ofSegments?]

/-- A slash at the end is left out, and nothing else is. -/
theorem exists_eq_dropFinalSlash_append (cs : List Char) :
    ∃ slash ∈ ["", "/"], cs = dropFinalSlash cs ++ slash.toList := by
  by_cases ends : cs.getLast? = some '/'
  · obtain ⟨kept, rfl⟩ := List.getLast?_eq_some_iff.mp ends
    refine ⟨"/", by simp, ?_⟩
    rw [dropFinalSlash, if_pos ends, List.dropLast_concat]
    rfl
  · refine ⟨"", by simp, ?_⟩
    rw [dropFinalSlash, if_neg ends]
    simp

theorem dropFinalSlash_append {cs : List Char} {slash : String} (plain : cs.getLast? ≠ some '/')
    (isSlash : slash ∈ ["", "/"]) : dropFinalSlash (cs ++ slash.toList) = cs := by
  rcases List.mem_pair.mp isSlash with rfl | rfl
  · simp [dropFinalSlash, plain]
  · simp [dropFinalSlash]

/-- Parts that are not empty and have no slash are what stands between the slashes of a path. -/
theorem splitOn_intercalate_parts {parts : List (List Char)}
    (full : ∀ part ∈ parts, part ≠ [] ∧ '/' ∉ part) :
    (['/'].intercalate (root :: parts)).splitOn '/' = root :: parts := by
  refine List.splitOn_intercalate '/' ?_ (List.cons_ne_nil _ _)
  rw [List.forall_mem_cons]
  exact ⟨by decide, fun part member => (full part member).2⟩

/-- Behind such parts there is no slash. -/
theorem getLast?_intercalate_parts {parts : List (List Char)}
    (full : ∀ part ∈ parts, part ≠ [] ∧ '/' ∉ part) :
    (['/'].intercalate (root :: parts)).getLast? ≠ some '/' := by
  intro ends
  have joined : ['/'].intercalate (root :: parts) ≠ [] := by
    rintro empty
    rw [empty] at ends
    cases ends
  have wrapped : ('/' :: ['/'].intercalate (root :: parts)).getLast? = some '/' := by
    rw [List.getLast?_cons_of_ne_nil joined, ends]
  rw [← getLast?_splitOn, splitOn_intercalate_parts full] at wrapped
  have empty : [] ∈ root :: parts := List.mem_of_getLast? wrapped
  rcases List.mem_cons.mp empty with isRoot | isPart
  · exact absurd isRoot (by decide)
  · exact (full [] isPart).1 rfl

/-- A path is read from the parts between the slashes of a text, a slash at its end apart: the root
first, and then the parts of the path, none of them empty. -/
theorem parse?_eq_some_iff {text : String} {path : ApiPath} :
    parse? text = some path ↔
      ∃ rest segments, text.toList = '/' :: rest ∧
        (dropFinalSlash rest).splitOn '/' = root :: segments ∧ [] ∉ segments ∧
        ofSegments? segments = some path := by
  have full (segments : List (List Char)) :
      segments.all (! ·.isEmpty) = true ↔ [] ∉ segments := by
    rw [List.all_eq_true]
    constructor
    · intro each empty
      exact nomatch each [] empty
    · rintro notThere (_ | ⟨c, cs⟩) isThere
      · exact absurd isThere notThere
      · rfl
  unfold parse?
  split
  · rename_i rest slash
    obtain ⟨first, segments, split⟩ := exists_splitOn (dropFinalSlash rest)
    rw [slash, split]
    dsimp only
    constructor
    · intro read
      split at read
      · rename_i fits
        exact ⟨rest, segments, rfl, fits.1 ▸ split, (full segments).mp fits.2, read⟩
      · cases read
    · rintro ⟨_, segments, same, there, notThere, made⟩
      cases same
      rw [split] at there
      cases there
      rw [if_pos ⟨rfl, (full segments).mpr notThere⟩, made]
  · rename_i other
    exact iff_of_false nofun fun ⟨rest, _, slash, _⟩ => other rest slash

/-- A path is read from the forms that it has, and from no other text. -/
theorem parse?_eq_some_iff_spells {text : String} {path : ApiPath} :
    parse? text = some path ↔ path.Spells text := by
  rw [parse?_eq_some_iff, spells_iff]
  constructor
  · rintro ⟨rest, segments, begins, split, notEmpty, made⟩
    obtain ⟨rfl, order⟩ := ofSegments?_eq_some_iff.mp made
    have full (part : List Char) (member : part ∈ path.parts) : part ≠ [] ∧ '/' ∉ part := by
      constructor
      · rintro rfl
        exact notEmpty member
      · have between : part ∈ (dropFinalSlash rest).splitOn '/' := by
          rw [split]
          exact List.mem_cons_of_mem _ member
        exact slash_notMem_of_mem_splitOn between
    obtain ⟨slash, isSlash, whole⟩ := exists_eq_dropFinalSlash_append rest
    refine ⟨full, order, slash, isSlash, ?_⟩
    have joined : ['/'].intercalate (root :: path.parts) = dropFinalSlash rest := by
      rw [← split]
      exact List.intercalate_splitOn '/'
    apply String.toList_inj.mp
    rw [String.toList_append, toList_text, joined, begins, List.cons_append, ← whole]
  · rintro ⟨full, order, slash, isSlash, rfl⟩
    refine ⟨['/'].intercalate (root :: path.parts) ++ slash.toList, path.parts, ?_, ?_, ?_, ?_⟩
    · rw [String.toList_append, toList_text, List.cons_append]
    · rw [dropFinalSlash_append (getLast?_intercalate_parts full) isSlash,
        splitOn_intercalate_parts full]
    · exact fun empty => (full [] empty).1 rfl
    · exact ofSegments?_eq_some_iff.mpr ⟨rfl, order⟩

theorem Spells.text_append {path : ApiPath} {text slash : String} (spells : path.Spells text)
    (isSlash : slash ∈ ["", "/"]) : path.Spells (path.text ++ slash) := by
  rw [spells_iff] at spells ⊢
  exact ⟨spells.1, spells.2.1, slash, isSlash, rfl⟩

/-- Paths are read exactly: a text is read as a path if it is a form of that path, and as nothing
else. So no text is a form of two paths, and a path that was read is read again from the text that
is written for it, with or without a slash behind it. -/
theorem parse_exactly (text : String) (path : ApiPath) :
    (parse? text = some path ↔ path.Spells text) ∧
      (∀ other : ApiPath, path.Spells text → other.Spells text → other = path) ∧
      (parse? text = some path →
        parse? path.text = some path ∧ parse? (path.text ++ "/") = some path) := by
  refine ⟨parse?_eq_some_iff_spells, ?_, ?_⟩
  · intro other spells otherSpells
    rw [← parse?_eq_some_iff_spells] at spells otherSpells
    rw [otherSpells] at spells
    exact Option.some.inj spells
  · intro read
    rw [parse?_eq_some_iff_spells] at read
    have plain : path.Spells (path.text ++ "") := read.text_append (by simp)
    have closed : path.Spells (path.text ++ "/") := read.text_append (by simp)
    rw [String.append_empty] at plain
    exact ⟨parse?_eq_some_iff_spells.mpr plain, parse?_eq_some_iff_spells.mpr closed⟩

end ApiPath

end Gatehouse
