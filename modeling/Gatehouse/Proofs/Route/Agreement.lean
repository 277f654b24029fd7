import Gatehouse.Proofs.Route.Grammar
import Gatehouse.Server.Basic

/-!
The paths that are routed, and the paths that can be read.

The patterns of the table and `ApiPath.parse?` both decide on the parts between the slashes of a
path, and they do not decide alike. A path that ends with a slash has an empty part at its end: it
can be read, as that slash is read over, but no pattern accepts it. A path with two slashes next to
each other has an empty part before its end: patterns accept that, but it cannot be read. On all
other paths the two agree, which is the theorem at the end, with what becomes of a request on the
paths on which they do not.
-/

namespace Gatehouse

open Segments

/-- A path with a slash at its end. -/
def EndsWithSlash (path : String) : Prop := path.toList.getLast? = some '/'

instance (path : String) : Decidable (EndsWithSlash path) :=
  inferInstanceAs (Decidable (_ = _))

/-- A path with two slashes next to each other. -/
def HasDoubledSlash (path : String) : Prop := ['/', '/'] <:+: path.toList

instance (path : String) : Decidable (HasDoubledSlash path) :=
  inferInstanceAs (Decidable (_ <:+: _))

/-! ## Patterns -/

namespace Route

/-- The pattern of a path with a number of parts after the root, each of which may be any text. -/
def apiPattern (length : Nat) : Pattern := .fixed "api" :: List.replicate length .any

theorem acceptsSegments_nil (pattern : Pattern) : pattern.acceptsSegments [] = false := by
  rcases pattern with _ | ⟨part, _ | ⟨next, pattern⟩⟩ <;> rfl

/-- Unless one part meets the last one of a pattern, the others are left to the rest of it. -/
theorem acceptsSegments_cons {part : Part} {pattern : Pattern} {segment : List Char}
    {segments : List (List Char)} (more : pattern ≠ [] ∨ segments ≠ []) :
    Pattern.acceptsSegments (part :: pattern) (segment :: segments) =
      (part.accepts segment && Pattern.acceptsSegments pattern segments) := by
  rcases pattern with _ | ⟨next, pattern⟩
  · rcases segments with _ | ⟨other, segments⟩
    · simp at more
    · rfl
  · rfl

theorem acceptsSegments_any (length : Nat) (segments : List (List Char)) :
    Pattern.acceptsSegments (List.replicate (length + 1) .any) segments = true ↔
      segments.length = length + 1 ∧ segments.getLast? ≠ some [] := by
  induction length generalizing segments with
  | zero =>
    rcases segments with _ | ⟨segment, _ | ⟨next, segments⟩⟩
    · simp [acceptsSegments_nil]
    · simp [Pattern.acceptsSegments, Part.accepts]
    · simp [Pattern.acceptsSegments]
  | succ length ih =>
    rcases segments with _ | ⟨segment, segments⟩
    · simp [acceptsSegments_nil]
    · have more : List.replicate (length + 1) Part.any ≠ [] := nofun
      rw [List.replicate_succ, acceptsSegments_cons (Or.inl more), Part.accepts, Bool.true_and, ih,
        List.length_cons, Nat.add_right_cancel_iff]
      refine and_congr_right fun long => ?_
      rw [List.getLast?_cons_of_ne_nil (List.ne_nil_of_length_eq_add_one long)]

/-- The pattern accepts the root with that many parts after it, if the last one is not empty. -/
theorem acceptsSegments_api (length : Nat) (segments : List (List Char)) :
    (apiPattern (length + 1)).acceptsSegments segments = true ↔
      ∃ rest, segments = ApiPath.root :: rest ∧ rest.length = length + 1 ∧
        rest.getLast? ≠ some [] := by
  rcases segments with _ | ⟨segment, segments⟩
  · rw [acceptsSegments_nil]
    exact iff_of_false nofun fun ⟨_, same, _⟩ => nomatch same
  · have more : List.replicate (length + 1) Part.any ≠ [] := nofun
    rw [apiPattern, acceptsSegments_cons (Or.inl more), Bool.and_eq_true, acceptsSegments_any,
      Part.accepts, beq_iff_eq]
    constructor
    · rintro ⟨rfl, accepted⟩
      exact ⟨segments, rfl, accepted⟩
    · rintro ⟨rest, same, accepted⟩
      cases same
      exact ⟨rfl, accepted⟩

/-- The last part that a pattern meets is not empty. -/
theorem getLast?_of_acceptsSegments {pattern : Pattern} {segments : List (List Char)}
    (accepts : pattern.acceptsSegments segments = true) : segments.getLast? ≠ some [] := by
  induction pattern generalizing segments with
  | nil => exact nomatch accepts
  | cons part pattern ih =>
    rcases segments with _ | ⟨segment, segments⟩
    · exact nofun
    · by_cases alone : pattern = [] ∧ segments = []
      · obtain ⟨rfl, rfl⟩ := alone
        rintro ⟨⟩
        rw [Pattern.acceptsSegments, List.isEmpty_nil, Bool.not_true, Bool.and_false] at accepts
        exact nomatch accepts
      · rw [acceptsSegments_cons (not_and_or.mp alone), Bool.and_eq_true] at accepts
        have some : segments ≠ [] := by
          rintro rfl
          exact nomatch accepts.2.symm.trans (acceptsSegments_nil pattern)
        rw [List.getLast?_cons_of_ne_nil some]
        exact ih accepts.2

theorem accepts_iff {pattern : Pattern} {path : String} :
    pattern.accepts path = true ↔
      ∃ rest, path.toList = '/' :: rest ∧ pattern.acceptsSegments (rest.splitOn '/') = true := by
  unfold Pattern.accepts
  split
  · rename_i rest slash
    rw [slash]
    refine ⟨fun accepts => ⟨rest, rfl, accepts⟩, fun ⟨other, same, accepts⟩ => ?_⟩
    cases same
    exact accepts
  · rename_i other
    exact iff_of_false nofun fun ⟨rest, slash, _⟩ => other rest slash

theorem api_accepts_iff {length : Nat} {path : String} :
    (apiPattern (length + 1)).accepts path = true ↔
      ∃ rest segments, path.toList = '/' :: rest ∧ rest.splitOn '/' = ApiPath.root :: segments ∧
        segments.length = length + 1 ∧ segments.getLast? ≠ some [] := by
  rw [accepts_iff]
  refine exists_congr fun rest => ?_
  rw [acceptsSegments_api, exists_and_left]

/-- The handler of a path, by the patterns in their order. -/
theorem handler?_eq (path : String) :
    handler? path =
      if (apiPattern 2).accepts path || (apiPattern 3).accepts path || (apiPattern 4).accepts path
      then some .api
      else if Pattern.accepts [.fixed "health"] path then some .health else none := by
  have two : Pattern.accepts [.fixed "api", .any, .any] path = (apiPattern 2).accepts path := rfl
  have three : Pattern.accepts [.fixed "api", .any, .any, .any] path =
      (apiPattern 3).accepts path := rfl
  have four : Pattern.accepts [.fixed "api", .any, .any, .any, .any] path =
      (apiPattern 4).accepts path := rfl
  simp only [handler?, table, List.find?_cons, List.find?_nil, two, three, four]
  cases (apiPattern 2).accepts path <;> cases (apiPattern 3).accepts path <;>
    cases (apiPattern 4).accepts path <;> cases Pattern.accepts [.fixed "health"] path <;> rfl

/-- A path is handed to the handler of requests for backends if the part after its first slash is
the root, two to four parts follow, and the last of them is not empty. -/
theorem handler?_eq_api_iff {path : String} :
    handler? path = some .api ↔
      ∃ rest segments, path.toList = '/' :: rest ∧ rest.splitOn '/' = ApiPath.root :: segments ∧
        2 ≤ segments.length ∧ segments.length ≤ 4 ∧ segments.getLast? ≠ some [] := by
  have api : handler? path = some .api ↔ (apiPattern 2).accepts path = true ∨
      (apiPattern 3).accepts path = true ∨ (apiPattern 4).accepts path = true := by
    rw [handler?_eq, ← Bool.or_eq_true, ← Bool.or_eq_true, ← Bool.or_assoc]
    split
    · rename_i accepts
      exact iff_of_true rfl accepts
    · rename_i refuses
      refine iff_of_false ?_ refuses
      split <;> nofun
  rw [api, api_accepts_iff, api_accepts_iff, api_accepts_iff]
  constructor
  · rintro (⟨rest, segments, slash, split, long, last⟩ | ⟨rest, segments, slash, split, long, last⟩ |
      ⟨rest, segments, slash, split, long, last⟩) <;>
      exact ⟨rest, segments, slash, split, by omega, by omega, last⟩
  · rintro ⟨rest, segments, slash, split, atLeast, atMost, last⟩
    obtain two | three | four : segments.length = 1 + 1 ∨ segments.length = 2 + 1 ∨
        segments.length = 3 + 1 := by omega
    · exact Or.inl ⟨rest, segments, slash, split, two, last⟩
    · exact Or.inr (Or.inl ⟨rest, segments, slash, split, three, last⟩)
    · exact Or.inr (Or.inr ⟨rest, segments, slash, split, four, last⟩)

end Route

/-! ## Reading -/

namespace ApiPath

theorem isSome_ofSegments? (segments : List (List Char)) :
    (ofSegments? segments).isSome = true ↔ 2 ≤ segments.length ∧ segments.length ≤ 4 := by
  rcases segments with _ | ⟨version, _ | ⟨module, _ | ⟨param, _ | ⟨id, _ | ⟨more, rest⟩⟩⟩⟩⟩
  all_goals simp [ofSegments?]

/-- A path can be read if, up to one slash at its end, the part after its first slash is the root,
two to four parts follow, and none of them is empty. -/
theorem isSome_parse? (path : String) :
    (parse? path).isSome = true ↔
      ∃ rest segments, path.toList = '/' :: rest ∧
        (dropFinalSlash rest).splitOn '/' = root :: segments ∧
        2 ≤ segments.length ∧ segments.length ≤ 4 ∧ [] ∉ segments := by
  rw [Option.isSome_iff_exists]
  constructor
  · rintro ⟨path, read⟩
    obtain ⟨rest, segments, slash, split, full, made⟩ := parse?_eq_some_iff.mp read
    have long := (isSome_ofSegments? segments).mp (Option.isSome_of_eq_some made)
    exact ⟨rest, segments, slash, split, long.1, long.2, full⟩
  · rintro ⟨rest, segments, slash, split, atLeast, atMost, full⟩
    obtain ⟨path, made⟩ :=
      Option.isSome_iff_exists.mp ((isSome_ofSegments? segments).mpr ⟨atLeast, atMost⟩)
    exact ⟨path, parse?_eq_some_iff.mpr ⟨rest, segments, slash, split, full, made⟩⟩

/-- A slash that is read over leaves an empty part behind all others. -/
theorem splitOn_dropFinalSlash {rest : List Char} (ends : rest.getLast? = some '/') :
    rest.splitOn '/' = (dropFinalSlash rest).splitOn '/' ++ [[]] := by
  obtain ⟨kept, rfl⟩ := List.getLast?_eq_some_iff.mp ends
  rw [dropFinalSlash, if_pos ends, List.dropLast_concat, List.splitOn_append_cons_self,
    List.splitOn_nil]

end ApiPath

/-! ## Agreement -/

/-- A path that is handed to the handler of requests for backends. -/
def Routed (path : String) : Prop := Route.handler? path = some .api

instance (path : String) : Decidable (Routed path) :=
  inferInstanceAs (Decidable (_ = _))

/-- A path that names a backend module. -/
def Readable (path : String) : Prop := (ApiPath.parse? path).isSome = true

instance (path : String) : Decidable (Readable path) :=
  inferInstanceAs (Decidable (_ = _))

section
variable {path : String}

theorem endsWithSlash_iff {rest : List Char} (slash : path.toList = '/' :: rest) :
    EndsWithSlash path ↔ (rest.splitOn '/').getLast? = some [] := by
  rw [EndsWithSlash, slash, getLast?_splitOn]

theorem hasDoubledSlash_iff {rest : List Char} (slash : path.toList = '/' :: rest) :
    HasDoubledSlash path ↔ [] ∈ (rest.splitOn '/').dropLast := by
  rw [HasDoubledSlash, slash, doubled_iff]

/-- Whatever the patterns of the table, a path that ends with a slash has no handler. -/
theorem EndsWithSlash.handler?_eq_none (ends : EndsWithSlash path) : Route.handler? path = none := by
  rw [Route.handler?, Option.map_eq_none_iff, List.find?_eq_none]
  intro row _ accepts
  obtain ⟨rest, slash, accepted⟩ := Route.accepts_iff.mp accepts
  exact Route.getLast?_of_acceptsSegments accepted ((endsWithSlash_iff slash).mp ends)

theorem Routed.not_endsWithSlash (routed : Routed path) : ¬ EndsWithSlash path := by
  intro ends
  rw [Routed, ends.handler?_eq_none] at routed
  exact nomatch routed

/-- The empty part between two slashes is refused where paths are read. -/
theorem Readable.not_hasDoubledSlash (readable : Readable path) : ¬ HasDoubledSlash path := by
  obtain ⟨rest, segments, slash, split, -, -, full⟩ := (ApiPath.isSome_parse? path).mp readable
  have fullParts : [] ∉ (ApiPath.dropFinalSlash rest).splitOn '/' := by
    rw [split, List.mem_cons, not_or]
    exact ⟨by decide, full⟩
  rw [hasDoubledSlash_iff slash]
  intro empty
  apply fullParts
  by_cases ends : rest.getLast? = some '/'
  · rwa [ApiPath.splitOn_dropFinalSlash ends, List.dropLast_concat] at empty
  · rw [ApiPath.dropFinalSlash, if_neg ends]
    exact List.dropLast_subset _ empty

theorem Readable.routed (readable : Readable path) (plain : ¬ EndsWithSlash path) :
    Routed path := by
  obtain ⟨rest, segments, slash, split, atLeast, atMost, full⟩ :=
    (ApiPath.isSome_parse? path).mp readable
  have kept : ApiPath.dropFinalSlash rest = rest := by
    refine if_neg fun ends => plain ?_
    rw [endsWithSlash_iff slash, ApiPath.splitOn_dropFinalSlash ends, List.getLast?_concat]
  rw [kept] at split
  refine Route.handler?_eq_api_iff.mpr ⟨rest, segments, slash, split, atLeast, atMost, ?_⟩
  exact fun last => full (List.mem_of_getLast? last)

theorem Routed.readable (routed : Routed path) (plain : ¬ HasDoubledSlash path) :
    Readable path := by
  obtain ⟨rest, segments, slash, split, atLeast, atMost, last⟩ :=
    Route.handler?_eq_api_iff.mp routed
  have some : segments ≠ [] := List.ne_nil_of_length_pos (by omega)
  have kept : ApiPath.dropFinalSlash rest = rest := by
    refine if_neg fun ends => last ?_
    have empty := congrArg List.getLast? (ApiPath.splitOn_dropFinalSlash ends)
    rwa [split, List.getLast?_cons_of_ne_nil some, List.getLast?_concat] at empty
  refine (ApiPath.isSome_parse? path).mpr
    ⟨rest, segments, slash, by rw [kept, split], atLeast, atMost, fun empty => plain ?_⟩
  rw [hasDoubledSlash_iff slash, split, List.dropLast_cons_of_ne_nil some]
  refine List.mem_cons_of_mem _ ?_
  -- the empty part is not the last one, so it is one of those before it
  rw [← List.dropLast_append_getLast some, List.mem_append, List.mem_singleton] at empty
  refine empty.resolve_right fun isLast => last ?_
  rw [List.getLast?_eq_getLast_of_ne_nil some, ← isLast]

end

/-- A path that can be read is routed unless it ends with a slash, and a path that is routed can be
read unless it has two slashes next to each other. So the two agree on all other paths. Of the paths
on which they do not, those of the first kind are answered as paths without a handler, and those of
the second kind reach the handler and are not found there. -/
theorem routing_and_reading (path : String) :
    (Readable path → (Routed path ↔ ¬ EndsWithSlash path)) ∧
    (Routed path → (Readable path ↔ ¬ HasDoubledSlash path)) ∧
    ∀ {α : Type} (server : Server α) (now : Nat) (inbound : Inbound),
      inbound.head.uri.path = path →
      (Routed path → server.dispatch now inbound = server.front.api now inbound) ∧
      (Readable path → EndsWithSlash path →
        server.dispatch now inbound = return (Server.noHandler inbound.head, [])) ∧
      (Routed path → HasDoubledSlash path →
        server.dispatch now inbound =
          return (.notFound path, [.request inbound.head.method 404 "none"])) := by
  refine ⟨fun readable => ⟨Routed.not_endsWithSlash, readable.routed⟩,
    fun routed => ⟨Readable.not_hasDoubledSlash, routed.readable⟩, ?_⟩
  rintro α server now inbound rfl
  refine ⟨fun routed => ?_, fun _ ends => ?_, fun routed doubled => ?_⟩
  · rw [Server.dispatch, routed]
  · rw [Server.dispatch, ends.handler?_eq_none]
  · have unread : ApiPath.parse? inbound.head.uri.path = none := by
      rw [← Option.not_isSome_iff_eq_none]
      exact fun readable => Readable.not_hasDoubledSlash readable doubled
    rw [Server.dispatch, routed, Front.api, unread]

/-- Both kinds of paths are there: one that can be read and is not routed, and one that is routed
and cannot be read. -/
theorem routing_and_reading_differ :
    (Readable "/api/v1/reports/" ∧ ¬ Routed "/api/v1/reports/") ∧
      Routed "/api//reports" ∧ ¬ Readable "/api//reports" := by
  have trailing : Readable "/api/v1/reports/" := by decide +kernel
  have doubled : Routed "/api//reports" := by decide +kernel
  refine ⟨⟨trailing, ?_⟩, doubled, ?_⟩
  · rw [(routing_and_reading _).1 trailing]
    decide +kernel
  · rw [(routing_and_reading _).2.1 doubled]
    decide +kernel

/-- A slash at the end is read over, but the path is not routed. -/
theorem trailing_slash_unrouted :
    ¬ ∀ path : String, Routed path ↔ Readable path := by
  intro agree
  have readable : Readable "/api/v1/reports/" := by decide +kernel
  have unrouted : ¬ Routed "/api/v1/reports/" := by decide +kernel
  exact unrouted ((agree _).mpr readable)

end Gatehouse
