import Mathlib.Data.List.Basic

/-!
The parts of a text between its slashes.

Where a text begins with a slash, ends with one, or has two of them next to each other, it has an
empty part; and no part has a slash in it.
-/

namespace Gatehouse.Segments

theorem splitOn_slash (cs : List Char) :
    ('/' :: cs).splitOn '/' = [] :: cs.splitOn '/' := by
  rw [List.splitOn_cons_eq_if_modifyHead, if_pos (beq_self_eq_true '/')]

theorem splitOn_other {c : Char} (other : c ≠ '/') (cs : List Char) :
    (c :: cs).splitOn '/' = (cs.splitOn '/').modifyHead (c :: ·) := by
  rw [List.splitOn_cons_eq_if_modifyHead, if_neg (by rw [beq_iff_eq]; exact other)]

theorem exists_splitOn (cs : List Char) : ∃ part parts, cs.splitOn '/' = part :: parts :=
  List.exists_cons_of_ne_nil (List.splitOn_ne_nil '/' cs)

/-- Only an empty text has nothing but one empty part. -/
theorem eq_nil_of_splitOn {cs : List Char} (single : cs.splitOn '/' = [[]]) : cs = [] := by
  have joined : ['/'].intercalate (cs.splitOn '/') = cs := List.intercalate_splitOn '/'
  rw [← joined, single]
  rfl

/-- The last part of a path is empty if the path ends with a slash. -/
theorem getLast?_splitOn (cs : List Char) :
    (cs.splitOn '/').getLast? = some [] ↔ ('/' :: cs).getLast? = some '/' := by
  induction cs with
  | nil => exact iff_of_true rfl rfl
  | cons c cs ih =>
    rw [List.getLast?_cons_cons]
    by_cases slash : c = '/'
    · rw [slash, splitOn_slash, List.getLast?_cons_of_ne_nil (List.splitOn_ne_nil '/' cs), ih]
    · rw [splitOn_other slash]
      cases cs with
      | nil =>
        rw [List.splitOn_nil, List.getLast?_singleton]
        refine iff_of_false nofun ?_
        rw [Option.some.injEq]
        exact slash
      | cons d ds =>
        obtain ⟨part, parts, split⟩ := exists_splitOn (d :: ds)
        rw [List.getLast?_cons_cons, ← List.getLast?_cons_cons (a := '/'), ← ih, split]
        cases parts with
        | nil =>
          -- the only part is that of a text that is not empty
          refine iff_of_false nofun fun isEmpty => ?_
          rw [List.getLast?_singleton, Option.some.injEq] at isEmpty
          rw [isEmpty] at split
          exact List.cons_ne_nil d ds (eq_nil_of_splitOn split)
        | cons next rest =>
          rw [List.modifyHead_cons, List.getLast?_cons_cons, List.getLast?_cons_cons]

/-- A text that begins with a slash has an empty part in front of others. -/
theorem slash_prefix_iff {cs part : List Char} {parts : List (List Char)}
    (split : cs.splitOn '/' = part :: parts) : ['/'] <+: cs ↔ part = [] ∧ parts ≠ [] := by
  cases cs with
  | nil =>
    cases split
    exact iff_of_false (by decide) fun both => both.2 rfl
  | cons c cs =>
    by_cases slash : c = '/'
    · rw [slash, splitOn_slash] at split
      cases split
      rw [slash]
      exact iff_of_true (List.cons_prefix_cons.mpr ⟨rfl, List.nil_prefix⟩)
        ⟨rfl, List.splitOn_ne_nil '/' cs⟩
    · obtain ⟨first, rest, there⟩ := exists_splitOn cs
      rw [splitOn_other slash, there] at split
      cases split
      refine iff_of_false (fun begins => slash ?_) nofun
      exact (List.cons_prefix_cons.mp begins).1.symm

theorem mem_dropLast_cons {α : Type} {a b : α} {rest : List α} :
    a ∈ (b :: rest).dropLast ↔ b = a ∧ rest ≠ [] ∨ a ∈ rest.dropLast := by
  cases rest with
  | nil => exact iff_of_false nofun fun either => either.elim (fun both => both.2 rfl) nofun
  | cons c rest =>
    rw [List.dropLast_cons_cons, List.mem_cons, eq_comm]
    simp

/-- Two slashes stand next to each other in a text if one of its parts is empty that is neither the
first nor the last one. -/
theorem doubled_iff_tail (cs : List Char) :
    ['/', '/'] <:+: cs ↔ [] ∈ (cs.splitOn '/').tail.dropLast := by
  induction cs with
  | nil => exact iff_of_false (by simp) nofun
  | cons c cs ih =>
    obtain ⟨part, parts, split⟩ := exists_splitOn cs
    rw [List.infix_cons_iff, ih, split]
    by_cases slash : c = '/'
    · rw [slash, splitOn_slash, split, List.prefix_cons_inj, slash_prefix_iff split, List.tail_cons,
        List.tail_cons, mem_dropLast_cons]
    · rw [splitOn_other slash, split, List.modifyHead_cons, List.tail_cons, List.tail_cons]
      refine or_iff_right fun begins => slash ?_
      exact (List.cons_prefix_cons.mp begins).1.symm

theorem doubled_iff (cs : List Char) :
    ['/', '/'] <:+: '/' :: cs ↔ [] ∈ (cs.splitOn '/').dropLast := by
  rw [doubled_iff_tail, splitOn_slash, List.tail_cons]

theorem slash_notMem_of_mem_splitOn {cs part : List Char} (member : part ∈ cs.splitOn '/') :
    '/' ∉ part := by
  induction cs generalizing part with
  | nil =>
    rw [List.splitOn_nil, List.mem_singleton] at member
    simp [member]
  | cons c cs ih =>
    by_cases slash : c = '/'
    · rw [slash, splitOn_slash, List.mem_cons] at member
      rcases member with rfl | later
      · simp
      · exact ih later
    · obtain ⟨first, rest, split⟩ := exists_splitOn cs
      rw [splitOn_other slash, split, List.modifyHead_cons, List.mem_cons] at member
      rw [split] at ih
      rcases member with rfl | later
      · simpa [Ne.symm slash] using ih (List.mem_cons_self)
      · exact ih (List.mem_cons_of_mem _ later)

end Gatehouse.Segments
